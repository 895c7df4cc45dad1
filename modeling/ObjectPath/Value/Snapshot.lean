import ObjectPath.Value.Basic

/-! The JSON document that a value amounts to. -/
namespace ObjectPath

def Integer.toNumber (n : Integer) : Json.Number :=
  .integer n.value ⟨n.inRange.word.1, Int.le_of_lt_add_one n.inRange.word.2⟩

/-- Finite numbers are floats of documents; for the others there is only null. -/
def Floating.toJson : Floating .double → Json
  | finite x => .number (.float x)
  | _ => .null

/-- Numbers of 32 bits are shown with the digits of their text. -/
def Floating.widenedJson : Floating .single → Json
  | finite x => .number (.float x.widen)
  | _ => .null

/-- The order in which the entries of a map are shown. Hash order is none, so labels are sorted. -/
def MapKind.arrange {α : Type} (kind : MapKind) (entries : List (Key × α)) : List (Key × α) :=
  match kind with
  | hashed => entries.mergeSort fun a b => a.1.label ≤ b.1.label
  | sorted => entries.mergeSort fun a b => a.1.le b.1
  | inserted => entries

namespace Value

mutual

def snapshot : Value → Json
  | boolean b => .bool b
  | character c => .string (String.singleton c)
  | text _ s => .string s
  | integer n => .number n.toNumber
  | single x => x.widenedJson
  | double x => x.toJson
  | json j => j
  | absent => .null
  | wrapped _ v => v.snapshot
  | sequence _ items => .array (itemSnapshots items)
  | map kind _ entries =>
    .ofMembers ((kind.arrange (entrySnapshots entries)).map fun (k, j) => (k.label, j))
  | record _ fields => .ofMembers (fieldSnapshots fields)
  | sealed _ j => j

def itemSnapshots : List Value → List Json
  | [] => []
  | v :: vs => v.snapshot :: itemSnapshots vs

def entrySnapshots : List (Key × Value) → List (Key × Json)
  | [] => []
  | (k, v) :: es => (k, v.snapshot) :: entrySnapshots es

def fieldSnapshots : List (String × Value) → List (String × Json)
  | [] => []
  | (name, v) :: fs => (name, v.snapshot) :: fieldSnapshots fs

end

end Value

end ObjectPath
