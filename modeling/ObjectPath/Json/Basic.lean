import ObjectPath.Entries
import ObjectPath.Json.Number

/-! JSON documents, and when two of them are equal. -/
namespace ObjectPath

/-- A JSON document. The members of an object keep their order. -/
inductive Json
  | null
  | bool (b : Bool)
  | number (n : Json.Number)
  | string (s : String)
  | array (items : List Json)
  | object (members : List (String × Json))

namespace Json

instance : Inhabited Json := ⟨null⟩

def kind : Json → String
  | null => "null"
  | bool _ => "boolean"
  | number _ => "number"
  | string _ => "string"
  | array _ => "array"
  | object _ => "object"

/-- Scalars are the documents that hold no others. -/
def isScalar : Json → Bool
  | array _ | object _ => false
  | _ => true

/-- An object with the last value of each key, in the order in which keys come first. -/
def ofMembers (members : List (String × Json)) : Json := object (Entries.ofList members)

mutual

/-- Equality of documents; the order of members does not count. -/
def same : Json → Json → Bool
  | null, null => true
  | bool a, bool b => a == b
  | number m, number n => m.same n
  | string s, string t => s == t
  | array xs, array ys => sameItems xs ys
  | object ms, object ns => ms.length == ns.length && sameMembers ms ns
  | _, _ => false

def sameItems : List Json → List Json → Bool
  | [], [] => true
  | x :: xs, y :: ys => same x y && sameItems xs ys
  | _, _ => false

/-- Whether each member has an equal one of its key among others. -/
def sameMembers : List (String × Json) → List (String × Json) → Bool
  | [], _ => true
  | (k, v) :: ms, ns =>
    match Entries.find? k ns with
    | some w => same v w && sameMembers ms ns
    | none => false

end

/-- Equality in which numbers count by their value, so that an integer can equal a float. -/
def equalValue : Json → Json → Bool
  | number m, number n => m.equalValue n
  | x, y => x.same y

end Json

end ObjectPath
