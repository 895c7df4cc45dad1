import ObjectPath.CommandLine.Options
import ObjectPath.Resolve.Walk

/-! Looking up a path in the text of a document. -/
namespace ObjectPath.CommandLine

inductive LookupError
  | usage (e : UsageError)
  | document (e : Json.SyntaxError)
  | path (e : Failure)
deriving DecidableEq

namespace LookupError

def display : LookupError → String
  | usage e => e.message
  | document e => e.message
  | path e => e.message

/-- The text for the user, which tells a missing end of a path from a path that cannot be walked. -/
def message : LookupError → String
  | path e@(.noSuchField ..) | path e@(.noSuchKey ..) => "Path does not resolve: " ++ e.message
  | path e@(.noSuchStep ..) => "Path is invalid for this document: " ++ e.message
  | e => e.display

end LookupError

/-- The document that a path leads to in the text of a document; null stands for nothing. -/
def lookupDocument (mode : Comparison) (document path : String) : Except LookupError Json :=
  match Json.parse document with
  | .error e => .error (.document e)
  | .ok j =>
    match resolve mode (.json j) path with
    | .error e => .error (.path e)
    | .ok none => .ok .null
    | .ok (some found) => .ok found.snapshot

def lookup (mode : Comparison) (document path : String) : Except LookupError String :=
  (lookupDocument mode document path).map Json.render

def run (o : Options) (document : String) : Except LookupError String :=
  (lookupDocument o.comparison document o.path).map fun j => if o.pretty then j.pretty else j.render

def runArguments (arguments : List String) (document : String) : Except LookupError String :=
  match Options.parse arguments with
  | .error e => .error (.usage e)
  | .ok o => run o document

end ObjectPath.CommandLine
