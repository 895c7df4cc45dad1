/-! Formats of binary floating-point numbers. -/
namespace ObjectPath

/-- A format: the bits of a significand, and the least and greatest power of two it is scaled by. -/
structure BinaryFormat where
  precision : Nat
  minExponent : Int
  maxExponent : Int
  min_le_max : minExponent ≤ maxExponent := by decide

namespace BinaryFormat

def double : BinaryFormat := { precision := 53, minExponent := -1074, maxExponent := 971 }

def single : BinaryFormat := { precision := 24, minExponent := -149, maxExponent := 104 }

/-- The first whole number that is too large for a significand. -/
def bound (F : BinaryFormat) : Nat := Nat.pow 2 F.precision

/-- The least significand whose highest bit is used. -/
def half (F : BinaryFormat) : Nat := Nat.pow 2 (F.precision - 1)

/-- Each number has one form: the highest bit is used unless the exponent is the least. -/
def Canonical (F : BinaryFormat) (significand : Nat) (exponent : Int) : Prop :=
  significand < F.bound ∧ F.minExponent ≤ exponent ∧ exponent ≤ F.maxExponent ∧
    (F.half ≤ significand ∨ exponent = F.minExponent)

instance (F : BinaryFormat) (m : Nat) (e : Int) : Decidable (F.Canonical m e) :=
  inferInstanceAs (Decidable (_ ∧ _ ∧ _ ∧ _))

theorem canonical_zero (F : BinaryFormat) : F.Canonical 0 F.minExponent :=
  ⟨Nat.pow_pos (by decide), Int.le_refl _, F.min_le_max, .inr rfl⟩

end BinaryFormat

end ObjectPath
