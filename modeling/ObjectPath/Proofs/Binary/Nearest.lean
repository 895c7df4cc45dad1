import ObjectPath.Proofs.Binary.Rational

/-! Rounding leads to a nearest number of a format. -/
namespace ObjectPath

namespace Fraction

theorem toRat_scaled (q : Fraction) (e : Int) :
    (q.timesTwoPower (-e)).toRat = q.toRat / 2 ^ e := by
  rw [toRat_timesTwoPower, zpow_neg, div_eq_mul_inv]

/-- Among the multiples of a power of two, rounding leads to a nearest one. -/
theorem scaled_nearest (q : Fraction) (e : Int) (k : Nat) :
    |((q.timesTwoPower (-e)).roundEven : ℚ) * 2 ^ e - q.toRat| ≤ |(k : ℚ) * 2 ^ e - q.toRat| := by
  have hpos : (0 : ℚ) < 2 ^ e := by positivity
  have hscale : ∀ a : ℚ, |a - q.toRat / 2 ^ e| * 2 ^ e = |a * 2 ^ e - q.toRat| := by
    intro a
    rw [← abs_of_pos hpos, ← abs_mul, abs_of_pos hpos, sub_mul, div_mul_cancel₀ _ hpos.ne']
  have hnearest := mul_le_mul_of_nonneg_right ((q.timesTwoPower (-e)).roundEven_nearest k) hpos.le
  rwa [toRat_scaled, hscale, hscale] at hnearest

/-- The lengths of numerator and denominator tell a fraction up to a factor of four. -/
theorem toRat_bracket {q : Fraction} (h : 0 < q.num) :
    2 ^ ((q.num.log2 : Int) - q.den.log2 - 1) ≤ q.toRat ∧
      q.toRat < 2 ^ ((q.num.log2 : Int) - q.den.log2 + 1) := by
  have hden : (0 : ℚ) < q.den := by exact_mod_cast q.den_pos
  have hnumLow : (2 : ℚ) ^ q.num.log2 ≤ q.num := by exact_mod_cast Nat.log2_self_le h.ne'
  have hnumHigh : (q.num : ℚ) < 2 ^ (q.num.log2 + 1) := by exact_mod_cast Nat.lt_log2_self
  have hdenLow : (2 : ℚ) ^ q.den.log2 ≤ q.den := by exact_mod_cast Nat.log2_self_le q.den_pos.ne'
  have hdenHigh : (q.den : ℚ) < 2 ^ (q.den.log2 + 1) := by exact_mod_cast Nat.lt_log2_self
  have hlow : (2 : ℚ) ^ ((q.num.log2 : Int) - q.den.log2 - 1) * 2 ^ (q.den.log2 + 1) =
      2 ^ q.num.log2 := by
    rw [← zpow_natCast, ← zpow_natCast, ← zpow_add₀ two_ne_zero]
    congr 1
    push_cast
    ring
  have hhigh : (2 : ℚ) ^ ((q.num.log2 : Int) - q.den.log2 + 1) * 2 ^ q.den.log2 =
      2 ^ (q.num.log2 + 1) := by
    rw [← zpow_natCast, ← zpow_natCast, ← zpow_add₀ two_ne_zero]
    congr 1
    push_cast
    ring
  rw [toRat]
  constructor
  · rw [le_div_iff₀ hden]
    calc
      (2 : ℚ) ^ ((q.num.log2 : Int) - q.den.log2 - 1) * q.den
        ≤ 2 ^ ((q.num.log2 : Int) - q.den.log2 - 1) * 2 ^ (q.den.log2 + 1) :=
          mul_le_mul_of_nonneg_left hdenHigh.le (by positivity)
      _ ≤ q.num := hlow ▸ hnumLow
  · rw [div_lt_iff₀ hden]
    calc
      (q.num : ℚ) < 2 ^ ((q.num.log2 : Int) - q.den.log2 + 1) * 2 ^ q.den.log2 := hhigh ▸ hnumHigh
      _ ≤ 2 ^ ((q.num.log2 : Int) - q.den.log2 + 1) * q.den :=
          mul_le_mul_of_nonneg_left hdenLow (by positivity)

end Fraction

namespace Binary

variable {F : BinaryFormat}

theorem bound_mul_zpow (e : Int) : (F.bound : ℚ) * 2 ^ e = 2 ^ (F.precision + e) := by
  rw [zpow_add₀ two_ne_zero, zpow_natCast]
  simp [BinaryFormat.bound]

section Precision

variable (hprecision : 0 < F.precision)

include hprecision

theorem half_mul_zpow (e : Int) : (F.half : ℚ) * 2 ^ e = 2 ^ (F.precision + e - 1) := by
  have hexponent : (F.precision : Int) + e - 1 = (F.precision - 1 : Nat) + e := by omega
  rw [hexponent, zpow_add₀ two_ne_zero, zpow_natCast]
  simp [BinaryFormat.half]

theorem half_mul_zpow_succ (e : Int) : (F.half : ℚ) * 2 ^ (e + 1) = F.bound * 2 ^ e := by
  have hexponent : (F.precision : Int) + (e + 1) - 1 = F.precision + e := by ring
  rw [half_mul_zpow hprecision, bound_mul_zpow, hexponent]

/-- The quantum is the least exponent at which the fraction fits a significand. -/
theorem quantum_spec {q : Fraction} (hq : 0 < q.num) :
    F.minExponent ≤ quantum F q ∧ q.toRat < F.bound * 2 ^ quantum F q ∧
      (quantum F q = F.minExponent ∨ F.half * 2 ^ quantum F q ≤ q.toRat) := by
  obtain ⟨hlow, hhigh⟩ := Fraction.toRat_bracket hq
  unfold quantum
  dsimp only
  generalize he : max F.minExponent ((q.num.log2 : Int) - q.den.log2 - F.precision) = e
  have hpos : (0 : ℚ) < 2 ^ e := by positivity
  simp only [Fraction.floor_lt_iff, Fraction.toRat_scaled, div_lt_iff₀ hpos]
  split
  · rename_i hfits
    refine ⟨by omega, hfits, ?_⟩
    by_cases hleast : e = F.minExponent
    · exact .inl hleast
    · right
      have hexponent : F.precision + e - 1 = (q.num.log2 : Int) - q.den.log2 - 1 := by omega
      rwa [half_mul_zpow hprecision, hexponent]
  · rename_i hlarge
    have hle : (q.num.log2 : Int) - q.den.log2 + 1 ≤ F.precision + (e + 1) := by omega
    refine ⟨by omega, ?_, .inr ?_⟩
    · rw [bound_mul_zpow]
      exact hhigh.trans_le (zpow_le_zpow_right₀ one_le_two hle)
    · rw [half_mul_zpow_succ hprecision]
      exact not_lt.mp hlarge

theorem round?_magnitude {negative : Bool} {q : Fraction} (hq : 0 < q.num) {x : Binary F}
    (h : round? F negative q = some x) :
    x.negative = negative ∧ x.magnitude.toRat =
      (q.timesTwoPower (-quantum F q)).roundEven * 2 ^ quantum F q := by
  unfold round? at h
  rw [if_neg hq.ne'] at h
  dsimp only at h
  generalize quantum F q = e at h ⊢
  generalize (q.timesTwoPower (-e)).roundEven = m at h ⊢
  by_cases hm : m = F.bound
  · simp only [hm, if_true] at h
    split at h
    · have hcarry : (m : ℚ) * 2 ^ e = F.half * 2 ^ (e + 1) := by
        rw [hm, half_mul_zpow_succ hprecision]
      rw [hcarry, ← Option.some.inj h]
      exact ⟨rfl, toRat_magnitude _⟩
    · simp at h
  · simp only [hm, if_false] at h
    split at h
    · rw [← Option.some.inj h]
      exact ⟨rfl, toRat_magnitude _⟩
    · simp at h

/--
No number of the format is nearer to a fraction than what it is rounded to. With the exponent of the
result or a higher one only multiples of the quantum can be formed, among which the rounded one is
nearest; with a lower one only numbers below the least multiple with a full significand.
-/
theorem magnitude_nearest {negative : Bool} {q : Fraction} {x : Binary F}
    (h : round? F negative q = some x) {n : Nat} {f : Int} (hn : F.Canonical n f) :
    |x.magnitude.toRat - q.toRat| ≤ |(n : ℚ) * 2 ^ f - q.toRat| := by
  rcases Nat.eq_zero_or_pos q.num with hzero | hq
  · have hx : zero F negative = x := by
      rw [round?, if_pos hzero] at h
      exact Option.some.inj h
    have hmagnitude : x.magnitude.toRat = 0 := by
      rw [← hx, toRat_magnitude]
      simp [zero]
    have hfraction : q.toRat = 0 := by simp [Fraction.toRat, hzero]
    rw [hmagnitude, hfraction, sub_zero, abs_zero]
    exact abs_nonneg _
  · obtain ⟨hleast, -, hfull⟩ := quantum_spec hprecision hq
    rw [(round?_magnitude hprecision hq h).2]
    generalize quantum F q = e at hleast hfull ⊢
    by_cases hef : e ≤ f
    · obtain ⟨k, hk⟩ := Int.eq_ofNat_of_zero_le (Int.sub_nonneg_of_le hef)
      have hmultiple : (n : ℚ) * 2 ^ f = (n * 2 ^ k : Nat) * 2 ^ e := by
        obtain rfl : f = k + e := by omega
        push_cast
        rw [zpow_add₀ two_ne_zero, zpow_natCast, mul_assoc]
      rw [hmultiple]
      exact q.scaled_nearest e (n * 2 ^ k)
    · have hlow : (n : ℚ) * 2 ^ f < F.half * 2 ^ e := F.scaled_lt hn.1 (by omega)
      have hhalf : (F.half : ℚ) * 2 ^ e ≤ q.toRat := by
        refine hfull.resolve_left ?_
        have hmin := hn.2.1
        omega
      refine (q.scaled_nearest e F.half).trans ?_
      rw [abs_of_nonpos (by linarith), abs_of_nonpos (by linarith)]
      linarith

/-- What is below the numbers with the greatest exponent is rounded to some number. -/
theorem exists_round? (negative : Bool) {q : Fraction}
    (hq : q.toRat < F.half * 2 ^ F.maxExponent) : ∃ x, round? F negative q = some x := by
  rcases Nat.eq_zero_or_pos q.num with hzero | hpos
  · exact ⟨zero F negative, by rw [round?, if_pos hzero]⟩
  · obtain ⟨hleast, hbound, hfull⟩ := quantum_spec hprecision hpos
    unfold round?
    rw [if_neg hpos.ne']
    dsimp only
    generalize quantum F q = e at hleast hbound hfull ⊢
    have hscale : (0 : ℚ) < 2 ^ e := by positivity
    obtain ⟨hfloor, hnext⟩ := (q.timesTwoPower (-e)).roundEven_bounds
    have hfits : (q.timesTwoPower (-e)).floor < F.bound := by
      rw [Fraction.floor_lt_iff, Fraction.toRat_scaled, div_lt_iff₀ hscale]
      exact hbound
    have hnormal : F.half ≤ (q.timesTwoPower (-e)).floor ∨ e = F.minExponent := by
      refine hfull.symm.imp_left ?_
      rw [Fraction.le_floor_iff, Fraction.toRat_scaled, le_div_iff₀ hscale]
      exact id
    have hbelow : F.maxExponent ≤ e → (q.timesTwoPower (-e)).floor < F.half := by
      intro hmax
      rw [Fraction.floor_lt_iff, Fraction.toRat_scaled, div_lt_iff₀ hscale]
      have hpower : (2 : ℚ) ^ F.maxExponent ≤ 2 ^ e := zpow_le_zpow_right₀ one_le_two hmax
      exact hq.trans_le (mul_le_mul_of_nonneg_left hpower (by positivity))
    have hhalf : F.half < F.bound := by
      unfold BinaryFormat.half BinaryFormat.bound
      exact Nat.pow_lt_pow_right (by decide) (by omega)
    generalize (q.timesTwoPower (-e)).roundEven = m at hfloor hnext ⊢
    have hmin := F.min_le_max
    by_cases hm : m = F.bound
    · simp only [hm, if_true]
      refine ⟨_, dif_pos ⟨hhalf, by omega, by omega, .inl le_rfl⟩⟩
    · simp only [hm, if_false]
      exact ⟨_, dif_pos ⟨by omega, hleast, by omega, by omega⟩⟩

/-- Rounding a number with a sign leads to a nearest one of the format. -/
theorem round?_nearest {negative : Bool} {q : Fraction} {x : Binary F}
    (h : round? F negative q = some x) (y : Binary F) :
    |x.toRat - if negative then -q.toRat else q.toRat| ≤
      |y.toRat - if negative then -q.toRat else q.toRat| := by
  have hsign : x.negative = negative := by
    rcases Nat.eq_zero_or_pos q.num with hzero | hq
    · rw [round?, if_pos hzero] at h
      rw [← Option.some.inj h]
      rfl
    · exact (round?_magnitude hprecision hq h).1
  have hfraction : |if negative then -q.toRat else q.toRat| = q.toRat := by
    split
    · rw [abs_neg, abs_of_nonneg q.toRat_nonneg]
    · rw [abs_of_nonneg q.toRat_nonneg]
  calc
    |x.toRat - if negative then -q.toRat else q.toRat| = |x.magnitude.toRat - q.toRat| := by
      rw [toRat, hsign]
      split
      · rw [neg_sub_neg, abs_sub_comm]
      · rfl
    _ ≤ |y.magnitude.toRat - q.toRat| := by
      rw [toRat_magnitude y]
      exact magnitude_nearest hprecision h y.canonical
    _ = |(|y.toRat| - |if negative then -q.toRat else q.toRat|)| := by rw [abs_toRat, hfraction]
    _ ≤ |y.toRat - if negative then -q.toRat else q.toRat| := abs_abs_sub_abs_le _ _

/-- A significand need not be full: it is shifted until it is, or until the exponent is least. -/
theorem exists_magnitude_eq (negative : Bool) {m : Nat} {e : Int} (hm : m < F.bound)
    (hmin : F.minExponent ≤ e) (hmax : e ≤ F.maxExponent) :
    ∃ x : Binary F, x.negative = negative ∧ x.magnitude.toRat = m * 2 ^ e := by
  obtain ⟨k, hk⟩ := Int.eq_ofNat_of_zero_le (Int.sub_nonneg_of_le hmin)
  induction k generalizing m e with
  | zero => exact ⟨⟨negative, m, e, hm, hmin, hmax, .inr (by omega)⟩, rfl, toRat_magnitude _⟩
  | succ k ih =>
    by_cases hhalf : F.half ≤ m
    · exact ⟨⟨negative, m, e, hm, hmin, hmax, .inl hhalf⟩, rfl, toRat_magnitude _⟩
    · have hbound : F.bound = 2 * F.half := by
        have hlength : F.precision = F.precision - 1 + 1 := by omega
        rw [BinaryFormat.bound, BinaryFormat.half, hlength]
        exact Nat.pow_succ'
      obtain ⟨x, hx, hvalue⟩ := @ih (2 * m) (e - 1) (by omega) (by omega) (by omega) (by omega)
      refine ⟨x, hx, ?_⟩
      rw [hvalue, zpow_sub₀ two_ne_zero]
      push_cast
      ring

end Precision

end Binary

end ObjectPath
