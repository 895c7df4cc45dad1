import Mathlib.Algebra.Order.Field.Basic
import Mathlib.Algebra.Order.Field.Power
import Mathlib.Data.Rat.Cast.Order
import Mathlib.Tactic.Linarith
import Mathlib.Tactic.Positivity
import Mathlib.Tactic.Ring
import ObjectPath.Binary.Basic

/-! The rational numbers that fractions and binary numbers denote. -/
namespace ObjectPath

namespace Fraction

def toRat (q : Fraction) : ℚ := q.num / q.den

@[simp] theorem toRat_ofNat (n : Nat) : (ofNat n).toRat = n := by
  simp [toRat, ofNat]

theorem toRat_nonneg (q : Fraction) : 0 ≤ q.toRat := by
  unfold toRat
  positivity

@[simp] theorem toRat_timesTwoPower (q : Fraction) (e : Int) :
    (q.timesTwoPower e).toRat = q.toRat * 2 ^ e := by
  unfold timesTwoPower timesPower toRat
  split
  · rename_i he
    obtain ⟨n, rfl⟩ := Int.eq_ofNat_of_zero_le he
    simp only [Int.toNat_natCast, Nat.pow_eq, zpow_natCast]
    push_cast
    ring
  · rename_i he
    obtain ⟨n, hn⟩ := Int.eq_ofNat_of_zero_le (show 0 ≤ -e by omega)
    obtain rfl : e = -n := by omega
    simp only [neg_neg, Int.toNat_natCast, Nat.pow_eq, zpow_neg, zpow_natCast]
    push_cast
    rw [div_mul_eq_div_div, div_eq_mul_inv _ ((2 : ℚ) ^ n)]

/-- Whole part and remainder. -/
theorem toRat_eq_floor_add (q : Fraction) :
    q.toRat = q.floor + ((q.num % q.den : Nat) : ℚ) / q.den := by
  have hden : (q.den : ℚ) ≠ 0 := by exact_mod_cast q.den_pos.ne'
  have hnum : (q.num : ℚ) = q.den * q.floor + (q.num % q.den : Nat) := by
    exact_mod_cast (Nat.div_add_mod q.num q.den).symm
  rw [toRat, hnum, add_div, mul_div_cancel_left₀ _ hden]

theorem floor_lt_iff (q : Fraction) (n : Nat) : q.floor < n ↔ q.toRat < n := by
  have hden : (0 : ℚ) < q.den := by exact_mod_cast q.den_pos
  rw [floor, Nat.div_lt_iff_lt_mul q.den_pos, toRat, div_lt_iff₀ hden]
  exact_mod_cast Iff.rfl

theorem le_floor_iff (q : Fraction) (n : Nat) : n ≤ q.floor ↔ (n : ℚ) ≤ q.toRat := by
  rw [← not_lt, ← not_lt, floor_lt_iff]

/-- The remainder is at most one half where it is dropped, and at least that where one is added. -/
theorem roundEven_cases (q : Fraction) :
    q.roundEven = q.floor ∧ 2 * (q.num % q.den) ≤ q.den ∨
      q.roundEven = q.floor + 1 ∧ q.den ≤ 2 * (q.num % q.den) := by
  unfold roundEven floor
  dsimp only
  split
  · omega
  · split <;> omega

/-- A fraction is rounded by at most one half. -/
theorem roundEven_error (q : Fraction) : |(q.roundEven : ℚ) - q.toRat| ≤ 1 / 2 := by
  have hden : (0 : ℚ) < q.den := by exact_mod_cast q.den_pos
  have hsplit := q.toRat_eq_floor_add
  have hnonneg : (0 : ℚ) ≤ ((q.num % q.den : Nat) : ℚ) / q.den := by positivity
  have hone : ((q.num % q.den : Nat) : ℚ) / q.den ≤ 1 := by
    rw [div_le_one hden]
    exact_mod_cast (Nat.mod_lt q.num q.den_pos).le
  rcases q.roundEven_cases with ⟨hround, hlow⟩ | ⟨hround, hhigh⟩
  · have hhalf : ((q.num % q.den : Nat) : ℚ) / q.den ≤ 1 / 2 := by
      have hcast : (2 : ℚ) * (q.num % q.den : Nat) ≤ q.den := by exact_mod_cast hlow
      rw [div_le_iff₀ hden]
      linarith
    rw [hround, abs_le]
    constructor <;> linarith
  · have hhalf : 1 / 2 ≤ ((q.num % q.den : Nat) : ℚ) / q.den := by
      have hcast : (q.den : ℚ) ≤ 2 * (q.num % q.den : Nat) := by exact_mod_cast hhigh
      rw [le_div_iff₀ hden]
      linarith
    rw [hround, abs_le]
    push_cast
    constructor <;> linarith

/-- No whole number is nearer to a fraction than the one it is rounded to. -/
theorem roundEven_nearest (q : Fraction) (k : Nat) :
    |(q.roundEven : ℚ) - q.toRat| ≤ |(k : ℚ) - q.toRat| := by
  by_cases hk : q.roundEven = k
  · rw [hk]
  have hdistinct : (1 : ℤ) ≤ |(q.roundEven : ℤ) - k| := by
    have hpos : 0 < |(q.roundEven : ℤ) - k| := abs_pos.mpr (by omega)
    omega
  have hone : (1 : ℚ) ≤ |(q.roundEven : ℚ) - k| := by exact_mod_cast hdistinct
  have htriangle := abs_add_le ((q.roundEven : ℚ) - q.toRat) (q.toRat - k)
  have herror := q.roundEven_error
  rw [sub_add_sub_cancel, abs_sub_comm q.toRat] at htriangle
  linarith

end Fraction

namespace BinaryFormat

variable {F : BinaryFormat}

theorem bound_le_two_mul_half (F : BinaryFormat) : F.bound ≤ 2 * F.half := by
  have hle : F.precision ≤ F.precision - 1 + 1 := by omega
  calc
    F.bound ≤ 2 ^ (F.precision - 1 + 1) := Nat.pow_le_pow_right Nat.two_pos hle
    _ = 2 * F.half := Nat.pow_succ'

/-- With a lower exponent only numbers below those with a full significand can be formed. -/
theorem scaled_lt {m : Nat} {e f : Int} (hm : m < F.bound) (hef : e < f) :
    (m : ℚ) * 2 ^ e < F.half * 2 ^ f := by
  have hdouble : (m : ℚ) < 2 * F.half := by
    exact_mod_cast hm.trans_le F.bound_le_two_mul_half
  have hpos : (0 : ℚ) < 2 ^ e := by positivity
  have hnext : (2 : ℚ) ^ (e + 1) ≤ 2 ^ f := zpow_le_zpow_right₀ (by norm_num) (by omega)
  calc
    (m : ℚ) * 2 ^ e < 2 * F.half * 2 ^ e := mul_lt_mul_of_pos_right hdouble hpos
    _ = F.half * 2 ^ (e + 1) := by
      rw [zpow_add₀ (by norm_num : (2 : ℚ) ≠ 0), zpow_one]
      ring
    _ ≤ F.half * 2 ^ f := mul_le_mul_of_nonneg_left hnext (by positivity)

theorem Canonical.lt_of_exponent_lt {m n : Nat} {e f : Int} (hm : F.Canonical m e)
    (hn : F.Canonical n f) (h : e < f) : (m : ℚ) * 2 ^ e < n * 2 ^ f := by
  obtain ⟨hbound, hleast, -, -⟩ := hm
  obtain ⟨-, -, -, hfull⟩ := hn
  have hhalf : F.half ≤ n := hfull.resolve_right (by omega)
  have hcast : (F.half : ℚ) ≤ n := by exact_mod_cast hhalf
  exact (scaled_lt hbound h).trans_le (mul_le_mul_of_nonneg_right hcast (by positivity))

/-- Each number has one canonical form. -/
theorem Canonical.unique {m n : Nat} {e f : Int} (hm : F.Canonical m e) (hn : F.Canonical n f)
    (h : (m : ℚ) * 2 ^ e = n * 2 ^ f) : m = n ∧ e = f := by
  rcases lt_trichotomy e f with hlt | rfl | hgt
  · exact absurd h (hm.lt_of_exponent_lt hn hlt).ne
  · have hscale : (2 : ℚ) ^ e ≠ 0 := by positivity
    have hmn : (m : ℚ) = n := mul_right_cancel₀ hscale h
    exact ⟨by exact_mod_cast hmn, rfl⟩
  · exact absurd h (hn.lt_of_exponent_lt hm hgt).ne'

end BinaryFormat

namespace Binary

variable {F : BinaryFormat}

def toRat (x : Binary F) : ℚ := if x.negative then -x.magnitude.toRat else x.magnitude.toRat

theorem toRat_magnitude (x : Binary F) : x.magnitude.toRat = x.significand * 2 ^ x.exponent := by
  rw [magnitude, Fraction.toRat_timesTwoPower, Fraction.toRat_ofNat]

theorem abs_toRat (x : Binary F) : |x.toRat| = x.magnitude.toRat := by
  unfold toRat
  split
  · rw [abs_neg, abs_of_nonneg x.magnitude.toRat_nonneg]
  · rw [abs_of_nonneg x.magnitude.toRat_nonneg]

theorem isZero_iff (x : Binary F) : x.isZero = true ↔ x.toRat = 0 := by
  have hscale : (2 : ℚ) ^ x.exponent ≠ 0 := by positivity
  rw [← abs_eq_zero, abs_toRat, toRat_magnitude, isZero, beq_iff_eq, mul_eq_zero]
  simp [hscale]

/-- Numbers that are distinct as such, but for the signs of zeros, denote distinct numbers. -/
theorem sameValue_iff (x y : Binary F) : x.sameValue y = true ↔ x.toRat = y.toRat := by
  rw [sameValue, Bool.or_eq_true, Bool.and_eq_true, isZero_iff, isZero_iff, beq_iff_eq]
  constructor
  · rintro (⟨hx, hy⟩ | rfl)
    · rw [hx, hy]
    · rfl
  · intro h
    by_cases hx : x.toRat = 0
    · exact .inl ⟨hx, h ▸ hx⟩
    · right
      have habs : x.magnitude.toRat = y.magnitude.toRat := by
        rw [← abs_toRat, h, abs_toRat]
      have hsign : x.negative = y.negative := by
        have hpos : 0 < x.magnitude.toRat := by
          rw [← abs_toRat]
          exact abs_pos.mpr hx
        unfold toRat at h
        cases hxs : x.negative <;> cases hys : y.negative <;> simp [hxs, hys] at h ⊢ <;> linarith
      rw [toRat_magnitude, toRat_magnitude] at habs
      obtain ⟨hsignificand, hexponent⟩ := x.canonical.unique y.canonical habs
      obtain ⟨negative, significand, exponent, canonical⟩ := x
      obtain ⟨negative', significand', exponent', canonical'⟩ := y
      subst hsign
      subst hsignificand
      subst hexponent
      rfl

end Binary

end ObjectPath
