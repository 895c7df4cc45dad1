import ObjectPath.Text.Position

/-! What can be wrong with the text of a document, and where. -/
namespace ObjectPath.Json

inductive Cause
  | endInList | endInObject | endInString | endInValue
  | expectedColon | expectedListSeparator | expectedObjectSeparator
  | expectedLiteral | expectedValue
  | invalidEscape | invalidNumber | numberOutOfRange
  | loneSurrogate | missingSurrogate
  | controlCharacter | keyNotString | trailingComma | trailingCharacters | nestingTooDeep
deriving DecidableEq

def Cause.message : Cause → String
  | endInList => "EOF while parsing a list"
  | endInObject => "EOF while parsing an object"
  | endInString => "EOF while parsing a string"
  | endInValue => "EOF while parsing a value"
  | expectedColon => "expected `:`"
  | expectedListSeparator => "expected `,` or `]`"
  | expectedObjectSeparator => "expected `,` or `\x7d`"
  | expectedLiteral => "expected ident"
  | expectedValue => "expected value"
  | invalidEscape => "invalid escape"
  | invalidNumber => "invalid number"
  | numberOutOfRange => "number out of range"
  | loneSurrogate => "lone leading surrogate in hex escape"
  | missingSurrogate => "unexpected end of hex escape"
  | controlCharacter => "control character (\\u0000-\\u001F) found while parsing a string"
  | keyNotString => "key must be a string"
  | trailingComma => "trailing comma"
  | trailingCharacters => "trailing characters"
  | nestingTooDeep => "recursion limit exceeded"

/-- A cause with the number of bytes of the text that were not yet read when it was found. -/
structure Fault where
  cause : Cause
  unread : Nat
deriving DecidableEq

namespace Fault

/-- A fault found in front of the rest of a text. -/
def before (cause : Cause) (rest : List Char) : Fault := ⟨cause, Text.byteLength rest⟩

/-- A fault found on the first byte of the rest of a text, or at its end. -/
def on (cause : Cause) (rest : List Char) : Fault := ⟨cause, Text.byteLength rest - 1⟩

/-- A fault found behind the next bytes of a text. -/
def behind (cause : Cause) (bytes : Nat) (rest : List Char) : Fault :=
  ⟨cause, Text.byteLength rest - bytes⟩

end Fault

structure SyntaxError where
  cause : Cause
  position : Text.Position
deriving DecidableEq

namespace SyntaxError

def ofFault (text : List Char) (f : Fault) : SyntaxError :=
  ⟨f.cause, Text.locate text (Text.byteLength text - f.unread)⟩

def message (e : SyntaxError) : String :=
  e.cause.message ++ " at line " ++ e.position.line.repr ++ " column " ++ e.position.column.repr

end SyntaxError

/-- A reader takes something from the front of a text and gives the rest, or finds a fault. -/
abbrev Reader (α : Type) := List Char → Except Fault (α × List Char)

end ObjectPath.Json
