import ObjectPath.Numeral

/-! Integers of a fixed width, signed and unsigned. -/
namespace ObjectPath

/-- The widths of integers; a machine word has 64 bits. -/
inductive Width
  | bits8 | bits16 | bits32 | bits64 | word
deriving DecidableEq

namespace Width

def count : Width → Nat
  | bits8 => 256
  | bits16 => 65536
  | bits32 => 4294967296
  | bits64 | word => 18446744073709551616

def name : Width → String
  | bits8 => "8"
  | bits16 => "16"
  | bits32 => "32"
  | bits64 => "64"
  | word => "size"

end Width

/-- A type of integers: two's complement of a width, or the numbers that it holds without sign. -/
structure IntegerType where
  signed : Bool
  width : Width
deriving DecidableEq

namespace IntegerType

def name (t : IntegerType) : String := (if t.signed then "i" else "u") ++ t.width.name

def least (t : IntegerType) : Int := if t.signed then -(t.width.count / 2 : Nat) else 0

/-- The first integer above those of a type. -/
def bound (t : IntegerType) : Int := if t.signed then (t.width.count / 2 : Nat) else t.width.count

def Contains (t : IntegerType) (i : Int) : Prop := t.least ≤ i ∧ i < t.bound

instance (t : IntegerType) (i : Int) : Decidable (t.Contains i) :=
  inferInstanceAs (Decidable (_ ∧ _))

/-- Every integer of every type lies between the least signed and the greatest unsigned word. -/
theorem Contains.word {t : IntegerType} {i : Int} (h : t.Contains i) :
    -9223372036854775808 ≤ i ∧ i < 18446744073709551616 := by
  obtain ⟨hl, hb⟩ := h
  rcases t with ⟨_ | _, w⟩ <;> cases w <;> simp [least, bound, Width.count] at hl hb <;> omega

end IntegerType

structure Integer where
  type : IntegerType
  value : Int
  inRange : type.Contains value
deriving DecidableEq

namespace Integer

def read? (t : IntegerType) (token : List Char) : Option Integer :=
  match Numeral.integer? t.signed token with
  | none => none
  | some i => if h : t.Contains i then some ⟨t, i, h⟩ else none

def chars (n : Integer) : List Char := Numeral.intDigits n.value

def render (n : Integer) : String := String.ofList n.chars

@[simp] theorem render_toList (n : Integer) : n.render.toList = n.chars := String.toList_ofList

end Integer

end ObjectPath
