import ObjectPath.CommandLine.Lookup

/-! A whole run of the lookup program. -/
namespace ObjectPath.CommandLine

/-- What a run leaves behind: its exit code and what it wrote to the two outputs. -/
structure Run where
  code : UInt8
  output : String
  errors : String
deriving DecidableEq

namespace Run

def success (text : String) : Run := ⟨0, text ++ "\n", ""⟩

def failure (code : UInt8) (text : String) : Run := ⟨code, "", text ++ "\n"⟩

end Run

def trimText (s : String) : String := String.ofList (Text.trim s.toList)

def Run.ofInput (o : Options) (input : ByteArray) : Run :=
  match String.fromUTF8? input with
  | none => .failure 1 "stream did not contain valid UTF-8"
  | some text =>
    match CommandLine.run o (trimText text) with
    | .ok result => .success result
    | .error e => .failure 1 e.message

/-- The code of runs whose arguments are refused is 2; their input is not looked at. -/
def program (arguments : List String) (input : ByteArray) : Run :=
  match Options.parse arguments with
  | .error e => .failure 2 e.message
  | .ok o => .ofInput o input

end ObjectPath.CommandLine
