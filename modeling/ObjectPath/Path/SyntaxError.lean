/-! What can be wrong with the text of a path. -/
namespace ObjectPath

/-- A reason to refuse the text of a path. Positions count bytes from the start of the text. -/
inductive SyntaxError
  /-- An opening bracket without a closing one. -/
  | unclosedBracket (position : Nat)
  /-- A character that may not stand where it does. -/
  | unexpected (char : Char) (position : Nat)
  | emptyKey
  /-- A side of the filter's `==` is blank. -/
  | emptyOperand
  /-- A filter is not followed by a dot and a field name. -/
  | missingResult
  | trailingAfterFilter
deriving DecidableEq

def SyntaxError.message : SyntaxError → String
  | unclosedBracket position => "Unclosed '[' at position " ++ position.repr
  | unexpected char position =>
    "Unexpected character '" ++ char.toString ++ "' at position " ++ position.repr
  | emptyKey => "Empty key in '[]'"
  | emptyOperand => "Filter clause needs a field and a value around '=='"
  | missingResult => "Filter clause must be followed by '.<field>'"
  | trailingAfterFilter => "Nothing may follow the result field of a filter clause"

end ObjectPath
