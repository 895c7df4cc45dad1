import ObjectPath.Resolve.Filter

/-! The arguments of the lookup program. -/
namespace ObjectPath.CommandLine

structure Options where
  path : String
  comparison : Comparison
  pretty : Bool
deriving DecidableEq

inductive UsageError
  | unknownFlag (argument : String)
  | secondPath
  | noPath
deriving DecidableEq

def UsageError.message : UsageError → String
  | unknownFlag argument => "Unknown flag: " ++ argument
  | secondPath => "Only one path may be given."
  | noPath => "First argument must be a property path."

inductive Argument
  | typed
  | pretty
  | unknown (text : String)
  | path (text : String)
deriving DecidableEq

/-- Arguments that start with two hyphens are flags, all others are paths. -/
def Argument.ofString (text : String) : Argument :=
  if text = "--typed" then typed
  else if text = "--pretty" then pretty
  else match text.toList with
    | '-' :: '-' :: _ => unknown text
    | _ => path text

/-- What the arguments have asked for so far. -/
structure Draft where
  path? : Option String
  comparison : Comparison
  pretty : Bool

namespace Draft

def empty : Draft := ⟨none, .text, false⟩

def add (p : Draft) (a : Argument) : Except UsageError Draft :=
  match a, p.path? with
  | .typed, _ => .ok { p with comparison := .typed }
  | .pretty, _ => .ok { p with pretty := true }
  | .unknown text, _ => .error (.unknownFlag text)
  | .path text, none => .ok { p with path? := some text }
  | .path _, some _ => .error .secondPath

/-- Takes arguments up to the first that is refused. -/
def addAll (p : Draft) : List Argument → Except UsageError Draft
  | [] => .ok p
  | a :: rest =>
    match p.add a with
    | .error e => .error e
    | .ok q => q.addAll rest

/-- A path has to be among the arguments. -/
def finish (p : Draft) : Except UsageError Options :=
  match p.path? with
  | some path => .ok ⟨path, p.comparison, p.pretty⟩
  | none => .error .noPath

end Draft

def Options.parse (arguments : List String) : Except UsageError Options :=
  match Draft.empty.addAll (arguments.map Argument.ofString) with
  | .error e => .error e
  | .ok p => p.finish

end ObjectPath.CommandLine
