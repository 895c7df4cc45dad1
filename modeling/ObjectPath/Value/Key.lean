import ObjectPath.Integer

/-! Keys of maps, and the tokens that select them. -/
namespace ObjectPath

inductive KeyType
  | text
  | integer (type : IntegerType)
deriving DecidableEq

inductive Key
  | text (s : String)
  | integer (n : Integer)
deriving DecidableEq

namespace Key

def type : Key → KeyType
  | text _ => .text
  | integer n => .integer n.type

def label : Key → String
  | text s => s
  | integer n => n.render

/-- Integers come in the order of their values, texts in the order of their characters. -/
def le : Key → Key → Bool
  | text s, text t => s ≤ t
  | integer m, integer n => m.value ≤ n.value
  | integer _, text _ => true
  | text _, integer _ => false

end Key

/-- The key of a type that a token denotes: a text verbatim, an integer as a numeral in range. -/
def KeyType.read? : KeyType → String → Option Key
  | text, token => some (.text token)
  | integer t, token => (Integer.read? t token.toList).map .integer

end ObjectPath
