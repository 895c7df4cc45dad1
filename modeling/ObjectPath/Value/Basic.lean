import ObjectPath.Floating
import ObjectPath.Json.Basic
import ObjectPath.Value.Key

/-! Object graphs: the values that paths are resolved against. -/
namespace ObjectPath

inductive TextKind
  | borrowed | owned
deriving DecidableEq

inductive SequenceKind
  | vector | slice | array | deque
deriving DecidableEq

/-- The ways to hold a map: by hash, sorted by key, or in the order of insertion. -/
inductive MapKind
  | hashed | sorted | inserted
deriving DecidableEq

/-- The layers around a value that do not show: an option that holds it, and pointers to it. -/
inductive Layer
  | option | box | counted | sharedCounted | reference
deriving DecidableEq

inductive Value
  | boolean (b : Bool)
  | character (c : Char)
  | text (kind : TextKind) (s : String)
  | integer (n : Integer)
  | single (x : Floating .single)
  | double (x : Floating .double)
  | json (j : Json)
  /-- An option that holds nothing. -/
  | absent
  | wrapped (layer : Layer) (value : Value)
  | sequence (kind : SequenceKind) (items : List Value)
  | map (kind : MapKind) (keyType : KeyType) (entries : List (Key × Value))
  /-- A value with named fields; of two fields with one name the first is found. -/
  | record (name : String) (fields : List (String × Value))
  /-- A value that shows its snapshot and nothing else. -/
  | sealed (name : String) (snapshot : Json)

namespace Value

instance : Inhabited Value := ⟨absent⟩

/-- A map in which the given entries were inserted one after the other. -/
def mapOf (kind : MapKind) (keyType : KeyType) (entries : List (Key × Value)) : Value :=
  map kind keyType (Entries.ofList entries)

end Value

end ObjectPath
