import ObjectPath.Proofs.Binary.Nearest
import ObjectPath.Proofs.Json.Literal

/-!
When the equality of filters is that of the numbers which are denoted. Integers are compared with
integers, and floats with floats; but an integer that no float denotes is rounded to meet a float.
-/
namespace ObjectPath

namespace Json

namespace Number

def toRat : Number → ℚ
  | integer i _ => i
  | float x => x.toRat

/-- Some float denotes the same number. -/
def IsExact (n : Number) : Prop := ∃ x : Double, x.toRat = n.toRat

/-- Numbers that are compared without rounding: two integers, or two numbers that floats denote. -/
inductive Comparable : Number → Number → Prop
  | integers (i j : Int) (hi : IsInteger i) (hj : IsInteger j) :
    Comparable (integer i hi) (integer j hj)
  | exact {m n : Number} (hm : m.IsExact) (hn : n.IsExact) : Comparable m n

theorem isExact_of_isFloat {n : Number} (h : n.isFloat = true) : n.IsExact := by
  cases n with
  | integer i hi => simp [isFloat] at h
  | float x => exact ⟨x, rfl⟩

/-- The cases that the comparison of two numbers tells apart. -/
theorem isFloat_or_integers (m n : Number) :
    (m.isFloat = true ∨ n.isFloat = true) ∨
      ∃ i j hi hj, m = integer i hi ∧ n = integer j hj := by
  cases m with
  | float x => exact .inl (.inl rfl)
  | integer i hi =>
    cases n with
    | float y => exact .inl (.inr rfl)
    | integer j hj => exact .inr ⟨i, j, hi, hj, rfl, rfl⟩

/-- An integer is its absolute value with its sign. -/
theorem signed_natAbs (i : Int) :
    (if decide (i < 0) then -(Fraction.ofNat i.natAbs).toRat
      else (Fraction.ofNat i.natAbs).toRat) = i := by
  rw [Fraction.toRat_ofNat, Nat.cast_natAbs]
  by_cases hi : i < 0
  · rw [if_pos (decide_eq_true hi), abs_of_neg hi]
    push_cast
    ring
  · rw [if_neg (by simp [hi]), abs_of_nonneg (not_lt.mp hi)]

/-- Integers are far from being too large for a float. -/
theorem exists_round?_integer {i : Int} (hi : IsInteger i) :
    ∃ x, Binary.round? .double (i < 0) (.ofNat i.natAbs) = some x := by
  refine Binary.exists_round? (by decide) _ ?_
  rw [Fraction.toRat_ofNat]
  have hword : i.natAbs ≤ 2 ^ 64 := by
    obtain ⟨hleast, hgreatest⟩ := hi
    omega
  have hpower : (2 : ℚ) ^ (64 : Int) ≤ 2 ^ BinaryFormat.double.maxExponent :=
    zpow_le_zpow_right₀ one_le_two (by decide)
  have hhalf : (1 : ℚ) < BinaryFormat.double.half := by
    exact_mod_cast (show 1 < BinaryFormat.double.half by decide)
  calc
    (i.natAbs : ℚ) ≤ 2 ^ (64 : Int) := by exact_mod_cast hword
    _ ≤ 2 ^ BinaryFormat.double.maxExponent := hpower
    _ < BinaryFormat.double.half * 2 ^ BinaryFormat.double.maxExponent :=
      lt_mul_of_one_lt_left (by positivity) hhalf

/-- No float is nearer to a number than the one that it is converted to. -/
theorem toDouble_nearest (n : Number) (y : Double) :
    |n.toDouble.toRat - n.toRat| ≤ |y.toRat - n.toRat| := by
  cases n with
  | float x =>
    rw [toDouble, toRat, sub_self, abs_zero]
    exact abs_nonneg _
  | integer i hi =>
    obtain ⟨x, hx⟩ := exists_round?_integer hi
    have hnearest := Binary.round?_nearest (by decide) hx y
    rw [signed_natAbs] at hnearest
    rwa [toDouble, hx, Option.getD_some, toRat]

theorem toRat_toDouble {n : Number} (h : n.IsExact) : n.toDouble.toRat = n.toRat := by
  obtain ⟨x, hx⟩ := h
  have hnearest := n.toDouble_nearest x
  rw [hx, sub_self, abs_zero] at hnearest
  exact sub_eq_zero.mp (abs_nonpos_iff.mp hnearest)

theorem isExact_of_toRat_eq {m n : Number} (h : m.toRat = n.toRat) (hm : m.IsExact) :
    n.IsExact := by
  obtain ⟨x, hx⟩ := hm
  exact ⟨x, hx.trans h⟩

/-- The least of the integers that no float denotes have 54 bits. -/
theorem isExact_of_natAbs_le {i : Int} (hi : IsInteger i) (h : i.natAbs ≤ 2 ^ 53) :
    (integer i hi).IsExact := by
  have hmagnitude : ∃ x : Double, x.negative = decide (i < 0) ∧ x.magnitude.toRat = i.natAbs := by
    rcases h.lt_or_eq with hlt | heq
    · obtain ⟨x, hx, hvalue⟩ := Binary.exists_magnitude_eq (F := .double) (e := 0) (by decide)
        (decide (i < 0)) hlt (by decide) (by decide)
      exact ⟨x, hx, by rw [hvalue, zpow_zero, mul_one]⟩
    · obtain ⟨x, hx, hvalue⟩ := Binary.exists_magnitude_eq (F := .double) (m := 1) (e := 53)
        (by decide) (decide (i < 0)) (by decide) (by decide) (by decide)
      refine ⟨x, hx, ?_⟩
      rw [hvalue, heq]
      norm_num
  obtain ⟨x, hx, hvalue⟩ := hmagnitude
  refine ⟨x, ?_⟩
  rw [Binary.toRat, hx, hvalue, toRat, ← signed_natAbs i, Fraction.toRat_ofNat]

/-- Unless two integers meet, their floats decide. -/
theorem equalValue_iff_toDouble {m n : Number} (h : m.isFloat = true ∨ n.isFloat = true) :
    m.equalValue n = true ↔ m.toDouble.toRat = n.toDouble.toRat := by
  rw [← Binary.sameValue_iff]
  cases m with
  | float x => rw [equalValue_float_left, toDouble_float]
  | integer i hi =>
    cases n with
    | float y => rw [equalValue_float_right, toDouble_float]
    | integer j hj => simp [isFloat] at h

theorem equalValue_iff_toRat {m n : Number} (h : m.Comparable n) :
    m.equalValue n = true ↔ m.toRat = n.toRat := by
  rcases m.isFloat_or_integers n with hfloat | ⟨i, j, hi, hj, rfl, rfl⟩
  · cases h with
    | integers i j hi hj => simp [isFloat] at hfloat
    | exact hm hn => rw [equalValue_iff_toDouble hfloat, toRat_toDouble hm, toRat_toDouble hn]
  · rw [equalValue_integer, beq_iff_eq, toRat, toRat, Int.cast_inj]

/-- Numbers need not be rounded to be seen to be the same. -/
theorem comparable_of_toRat_eq {m n : Number} (h : m.toRat = n.toRat) : m.Comparable n := by
  rcases m.isFloat_or_integers n with (hm | hn) | ⟨i, j, hi, hj, rfl, rfl⟩
  · have hexact := isExact_of_isFloat hm
    exact .exact hexact (isExact_of_toRat_eq h hexact)
  · have hexact := isExact_of_isFloat hn
    exact .exact (isExact_of_toRat_eq h.symm hexact) hexact
  · exact .integers i j hi hj

/-- Unless their floats are apart, equality is by value only where nothing is rounded. -/
theorem equalValue_iff_toRat_iff (m n : Number) :
    (m.equalValue n = true ↔ m.toRat = n.toRat) ↔
      m.Comparable n ∨ m.toDouble.toRat ≠ n.toDouble.toRat := by
  by_cases hcomparable : m.Comparable n
  · exact iff_of_true (equalValue_iff_toRat hcomparable) (.inl hcomparable)
  · have hapart : m.toRat ≠ n.toRat := fun h => hcomparable (comparable_of_toRat_eq h)
    rcases m.isFloat_or_integers n with hfloat | ⟨i, j, hi, hj, rfl, rfl⟩
    · simp [equalValue_iff_toDouble hfloat, hapart, hcomparable]
    · exact absurd (.integers i j hi hj) hcomparable

theorem Comparable.trans {k m n : Number} (hkm : k.Comparable m) (hmn : m.Comparable n)
    (hk : k.toRat = m.toRat) (hm : m.toRat = n.toRat) : k.Comparable n := by
  cases hkm with
  | exact hexact _ => exact .exact hexact (isExact_of_toRat_eq (hk.trans hm) hexact)
  | integers i j hi hj =>
    cases hmn with
    | integers _ l _ hl => exact .integers i l hi hl
    | exact _ hexact => exact .exact (isExact_of_toRat_eq (hk.trans hm).symm hexact) hexact

end Number

def Comparable (x y : Json) : Prop := ∀ m n, x = number m → y = number n → m.Comparable n

theorem eq_of_equalValue {x y : Json} (hx : x.isScalar = true) (hnumber : x.kind ≠ "number")
    (h : x.equalValue y = true) : x = y := by
  cases x <;> cases y <;> simp_all [equalValue, same, isScalar, kind]

theorem equalValue_trans {x y z : Json} (hx : x.isScalar = true) (hxy : Comparable x y)
    (hyz : Comparable y z) (h : x.equalValue y = true) (h' : y.equalValue z = true) :
    x.equalValue z = true := by
  by_cases hnumber : x.kind = "number"
  · cases x <;> simp [kind] at hnumber
    case number k =>
      cases y <;> simp [equalValue, same] at h
      case number m =>
        cases z <;> simp [equalValue, same] at h'
        case number n =>
          have hkm := hxy k m rfl rfl
          have hmn := hyz m n rfl rfl
          have hk := (Number.equalValue_iff_toRat hkm).mp h
          have hm := (Number.equalValue_iff_toRat hmn).mp h'
          exact (Number.equalValue_iff_toRat (hkm.trans hmn hk hm)).mpr (hk.trans hm)
  · rwa [eq_of_equalValue hx hnumber h]

end Json

open Json in
/-- A literal does not match two integers when it need not be rounded to meet them. -/
theorem Comparison.eq_of_holds {literal : String} {v w : Value} {i j : Int} {hi : IsInteger i}
    {hj : IsInteger j} (hv : v.snapshot = number (.integer i hi))
    (hw : w.snapshot = number (.integer j hj)) (hvl : Comparable v.snapshot (ofLiteral literal))
    (hlw : Comparable (ofLiteral literal) w.snapshot) (h : typed.holds v literal = true)
    (h' : typed.holds w literal = true) : i = j := by
  have hvscalar : v.snapshot.isScalar = true := by rw [hv]; rfl
  have hwscalar : w.snapshot.isScalar = true := by rw [hw]; rfl
  have hflipped : (ofLiteral literal).equalValue w.snapshot = true := by
    rw [equalValue_comm (.scalar (isScalar_ofLiteral literal)) (.scalar hwscalar)]
    exact h'
  have hboth := equalValue_trans hvscalar hvl hlw h hflipped
  rwa [hv, hw, equalValue, Number.equalValue_integer, beq_iff_eq] at hboth

namespace Json

/--
Two numbers are equal just if they denote one number, unless one is a float and the other one, which
no float denotes, is rounded to it; no float is nearer then. So a number is compared by value with
all floats just if some float denotes it, as one does for integers up to 2 ^ 53. On scalars that are
compared without rounding equality is transitive, and then no literal matches two integers.
-/
theorem equalValue_by_value (m n : Number) :
    ((m.equalValue n = true ↔ m.toRat = n.toRat) ↔
      m.Comparable n ∨ m.toDouble.toRat ≠ n.toDouble.toRat) ∧
    (∀ x, m.equalValue (.float x) = true → ∀ y : Double,
      |x.toRat - m.toRat| ≤ |y.toRat - m.toRat|) ∧
    (m.IsExact ↔ ∀ x, m.equalValue (.float x) = true ↔ m.toRat = x.toRat) ∧
    (∀ i hi, m = .integer i hi → i.natAbs ≤ 2 ^ 53 → m.IsExact) ∧
    (∀ x y z : Json, x.isScalar = true → Comparable x y → Comparable y z →
      x.equalValue y = true → y.equalValue z = true → x.equalValue z = true) ∧
    (∀ (literal : String) (v w : Value) (i j : Int) (hi : IsInteger i) (hj : IsInteger j),
      v.snapshot = number (.integer i hi) → w.snapshot = number (.integer j hj) →
      Comparable v.snapshot (ofLiteral literal) → Comparable (ofLiteral literal) w.snapshot →
      Comparison.typed.holds v literal = true → Comparison.typed.holds w literal = true →
      i = j) := by
  have hfloat (x : Double) : m.equalValue (.float x) = true ↔ m.toDouble.toRat = x.toRat :=
    Number.equalValue_iff_toDouble (.inr rfl)
  refine ⟨m.equalValue_iff_toRat_iff n, ?_, ?_, ?_, fun _ _ _ => equalValue_trans,
    fun _ _ _ _ _ _ _ => Comparison.eq_of_holds⟩
  · intro x hx
    rw [← (hfloat x).mp hx]
    exact m.toDouble_nearest
  · constructor
    · intro hexact x
      exact Number.equalValue_iff_toRat (.exact hexact (Number.isExact_of_isFloat rfl))
    · intro h
      exact ⟨m.toDouble, ((h m.toDouble).mp ((hfloat _).mpr rfl)).symm⟩
  · rintro i hi rfl
    exact Number.isExact_of_natAbs_le hi

theorem equalValue_by_value_zeros :
    let minus : Number := .float (.zero .double true)
    let zero : Number := .integer 0 (by decide)
    let plus : Number := .float (.zero .double false)
    minus.Comparable zero ∧ zero.Comparable plus ∧ minus.toRat = zero.toRat ∧
      (number minus).equalValue (number plus) = true := by
  intro minus zero plus
  obtain ⟨hvalue, -, -, -, htrans, -⟩ := equalValue_by_value minus zero
  have hzero : zero.IsExact := (equalValue_by_value zero plus).2.2.2.1 0 _ rfl (by decide)
  have hminus : minus.Comparable zero := .exact (Number.isExact_of_isFloat rfl) hzero
  have hplus : zero.Comparable plus := .exact hzero (Number.isExact_of_isFloat rfl)
  refine ⟨hminus, hplus, (hvalue.mpr (.inl hminus)).mp (by decide +kernel), ?_⟩
  refine htrans (number minus) (number zero) (number plus) rfl ?_ ?_
    (by decide +kernel) (by decide +kernel)
  · rintro m n ⟨⟩ ⟨⟩
    exact hminus
  · rintro m n ⟨⟩ ⟨⟩
    exact hplus

/-- Two integers that one float equals, and that the literal of this float matches. -/
theorem equalValue_rounds :
    let low : Number := .integer 9007199254740992 (by decide)
    let middle : Number := .float ⟨false, 4503599627370496, 1, by decide⟩
    let high : Number := .integer 9007199254740993 (by decide)
    let matched (n : Number) := Comparison.typed.holds (.json (number n)) "9007199254740992.0"
    high.equalValue middle = true ∧ middle.equalValue low = true ∧ high.equalValue low = false ∧
      matched high = true ∧ matched low = true ∧
      ¬ ∀ m n : Number, m.equalValue n = true ↔ m.toRat = n.toRat := by
  intro low middle high matched
  have hhigh : high.equalValue middle = true := by decide +kernel
  have hlow : middle.equalValue low = true := by decide +kernel
  have hapart : high.equalValue low = false := by decide
  refine ⟨hhigh, hlow, hapart, by decide +kernel, by decide +kernel, ?_⟩
  intro h
  have hvalue : high.toRat = low.toRat := ((h _ _).mp hhigh).trans ((h _ _).mp hlow)
  rw [← h, hapart] at hvalue
  exact absurd hvalue Bool.false_ne_true

end Json

end ObjectPath
