import ObjectPath.Path.SyntaxError

/-! Why a path cannot be resolved. -/
namespace ObjectPath

inductive Failure
  /-- A field that is not the last of the path does not exist. -/
  | noSuchStep (name typeName : String)
  /-- The last field of the path does not exist. -/
  | noSuchField (name typeName : String)
  | noSuchKey (token typeName : String)
  | notKeyed (typeName : String)
  | notSequence (typeName : String)
  | malformed (e : SyntaxError)
deriving DecidableEq

namespace Failure

def message : Failure → String
  | noSuchStep name typeName => "Invalid path: `" ++ name ++ "` is not a field of " ++ typeName
  | noSuchField name typeName => "Property `" ++ name ++ "` not found on " ++ typeName
  | noSuchKey token typeName => "Key `" ++ token ++ "` not found in " ++ typeName
  | notKeyed typeName => typeName ++ " does not support keyed indexing"
  | notSequence typeName => typeName ++ " is not a sequence and cannot be filtered"
  | malformed e => "Malformed path: " ++ e.message

/-- Whether what the path names at its end does not exist. -/
def isNotFound : Failure → Bool
  | noSuchField .. | noSuchKey .. => true
  | _ => false

end Failure

end ObjectPath
