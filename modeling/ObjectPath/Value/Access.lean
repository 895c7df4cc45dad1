import ObjectPath.Value.Basic

/-! What a value shows of itself: its type, its fields, its elements and its text. -/
namespace ObjectPath

def TextKind.typeName : TextKind → String
  | borrowed => "str"
  | owned => "String"

def SequenceKind.typeName : SequenceKind → String
  | vector => "Vec"
  | slice => "slice"
  | array => "array"
  | deque => "VecDeque"

def MapKind.typeName : MapKind → String
  | hashed => "HashMap"
  | sorted => "BTreeMap"
  | inserted => "IndexMap"

/-- The outcome of asking a value for the element under a key. -/
inductive Lookup
  | found (v : Value)
  /-- There is no such element, or the token is not a key of this container. -/
  | missing
  /-- The value is no container with keys. -/
  | unsupported

def Lookup.ofOption : Option Value → Lookup
  | some v => found v
  | none => missing

@[simp] theorem Lookup.ofOption_eq_found_iff {v? : Option Value} {v : Value} :
    ofOption v? = found v ↔ v? = some v := by
  cases v? <;> simp [ofOption]

@[simp] theorem Lookup.ofOption_eq_missing_iff {v? : Option Value} :
    ofOption v? = missing ↔ v? = none := by
  cases v? <;> simp [ofOption]

@[simp] theorem Lookup.ofOption_ne_unsupported (v? : Option Value) :
    ofOption v? ≠ unsupported := by
  cases v? <;> simp [ofOption]

namespace Value

def typeName : Value → String
  | boolean _ => "bool"
  | character _ => "char"
  | text kind _ => kind.typeName
  | integer n => n.type.name
  | single _ => "f32"
  | double _ => "f64"
  | json j => j.kind
  | absent => "None"
  | wrapped _ v => v.typeName
  | sequence kind _ => kind.typeName
  | map kind _ _ => kind.typeName
  | record name _ => name
  | sealed name _ => name

def isAbsent : Value → Bool
  | absent | json .null => true
  | wrapped _ v => v.isAbsent
  | _ => false

def select? (keyType : KeyType) (entries : List (Key × Value)) (token : String) : Option Value :=
  (keyType.read? token).bind (Entries.find? · entries)

def item? (items : List Value) (token : String) : Option Value :=
  (Numeral.position? token.toList).bind (items[·]?)

/-- The field of a value with a name; the keys of maps and of JSON objects are field names. -/
def field? (name : String) : Value → Option Value
  | json (.object members) => (Entries.find? name members).map json
  | wrapped _ v => v.field? name
  | map _ keyType entries => select? keyType entries name
  | record _ fields => Entries.find? name fields
  | _ => none

/-- The element of a container under the key that a token denotes. -/
def lookup (token : String) : Value → Lookup
  | json (.object members) => .ofOption ((Entries.find? token members).map json)
  | json (.array items) => .ofOption (item? (items.map json) token)
  | wrapped _ v => v.lookup token
  | sequence _ items => .ofOption (item? items token)
  | map _ keyType entries => .ofOption (select? keyType entries token)
  | _ => .unsupported

def elements? : Value → Option (List Value)
  | json (.array items) => some (items.map json)
  | wrapped _ v => v.elements?
  | sequence _ items => some items
  | _ => none

private def boolText (b : Bool) : String := if b then "true" else "false"

def text? : Value → Option String
  | boolean b => some (boolText b)
  | character c => some (String.singleton c)
  | text _ s => some s
  | integer n => some n.render
  | single x => some (String.ofList x.chars)
  | double x => some (String.ofList x.chars)
  | json (.bool b) => some (boolText b)
  | json (.number n) => some (String.ofList n.chars)
  | json (.string s) => some s
  | wrapped _ v => v.text?
  | _ => none

def present? (v : Value) : Option Value := if v.isAbsent then none else some v

end Value

end ObjectPath
