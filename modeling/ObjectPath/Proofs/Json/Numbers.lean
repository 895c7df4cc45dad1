import ObjectPath.Json.NumberReader
import ObjectPath.Proofs.Position

/-! Integers are read back from their numerals. -/
namespace ObjectPath.Json

/-- Nothing that could go on with a number comes next. -/
def EndsNumber (rest : List Char) : Prop :=
  ∀ c ∈ rest.head?, c.isDigit = false ∧ c ≠ '.' ∧ c ≠ 'e' ∧ c ≠ 'E'

theorem le_ofDigitChars (cs : List Char) (n : Nat) : n ≤ Nat.ofDigitChars 10 cs n := by
  have hpos : 0 < 10 ^ cs.length := Nat.pow_pos (by decide)
  have hle : n ≤ 10 ^ cs.length * n := Nat.le_mul_of_pos_left n hpos
  rw [Nat.ofDigitChars_eq_ofDigitChars_zero]
  omega

/-- Digits are taken up to their end while the number that they form is not too large. -/
theorem takeDigits_append {max : Nat} {cs rest : List Char} (hcs : ∀ c ∈ cs, c.isDigit = true)
    (hrest : startsWithDigit rest = false) {n : Nat} (hmax : Nat.ofDigitChars 10 cs n ≤ max) :
    takeDigits max n (cs ++ rest) = (Nat.ofDigitChars 10 cs n, rest) := by
  induction cs generalizing n with
  | nil =>
    rw [Nat.ofDigitChars_nil, List.nil_append]
    cases rest with
    | nil => rfl
    | cons c tail =>
      have hc : c.isDigit = false := hrest
      simp [takeDigits, hc]
  | cons c cs ih =>
    have hc : c.isDigit = true := hcs c List.mem_cons_self
    have htail := fun d hd => hcs d (List.mem_cons_of_mem c hd)
    rw [Nat.ofDigitChars_cons] at hmax ⊢
    have hnext : 10 * n + (c.toNat - '0'.toNat) ≤ max := Nat.le_trans (le_ofDigitChars cs _) hmax
    rw [List.cons_append, takeDigits]
    simp only [hc, hnext, decide_true, Bool.and_self, if_true]
    exact ih htail hmax

theorem EndsNumber.startsWithDigit_eq {rest : List Char} (h : EndsNumber rest) :
    startsWithDigit rest = false := by
  cases rest with
  | nil => rfl
  | cons c tail => exact (h c rfl).1

theorem readScale_of_endsNumber {rest : List Char} (h : EndsNumber rest) (negative : Bool)
    (digits : Nat) : readScale negative digits 0 rest = integer negative digits rest := by
  cases rest with
  | nil => rfl
  | cons c tail =>
    obtain ⟨-, hdot, hlower, hupper⟩ := h c rfl
    simp [readScale, hdot, hlower, hupper]

theorem readNumber_digits {n : Nat} (hn : n ≤ maxDigits) {rest : List Char} (hrest : EndsNumber rest)
    (negative : Bool) :
    readNumber negative (Numeral.digits n ++ rest) = integer negative n rest := by
  have hstart := hrest.startsWithDigit_eq
  rcases Nat.eq_zero_or_pos n with rfl | hpos
  · rw [Numeral.digits, Nat.toDigits_zero]
    simp [readNumber, hstart, readScale_of_endsNumber hrest]
  · obtain ⟨c, cs, hcs, hc⟩ := Numeral.digits_eq_cons hpos
    have hall : ∀ d ∈ Numeral.digits n, d.isDigit = true := fun d => Numeral.isDigit_of_mem_digits
    have hvalue : Nat.ofDigitChars 10 (Numeral.digits n) 0 = n := Numeral.value_digits n
    have htake : takeDigits maxDigits 0 (Numeral.digits n ++ rest) = (n, rest) := by
      rw [takeDigits_append hall hstart (by rwa [hvalue]), hvalue]
    have hmore : rest.takeWhile Char.isDigit = [] ∧ rest.dropWhile Char.isDigit = rest := by
      cases rest with
      | nil => exact ⟨rfl, rfl⟩
      | cons d tail => simp [(hrest d rfl).1]
    rw [hcs] at hall htake ⊢
    have hdigit : c.isDigit = true := hall c List.mem_cons_self
    rw [List.cons_append] at htake ⊢
    simp [readNumber, hdigit, htake, hmore, readScale_of_endsNumber hrest]

/-- The numeral of an integer is read back as that integer. -/
theorem readNumber_natAbs {i : Int} (hi : IsInteger i) {rest : List Char} (hrest : EndsNumber rest) :
    readNumber (decide (i < 0)) (Numeral.digits i.natAbs ++ rest) = .ok (.integer i hi, rest) := by
  have hmax : i.natAbs ≤ maxDigits := by
    unfold IsInteger at hi
    unfold maxDigits
    omega
  have hsigned : (if decide (i < 0) then -(i.natAbs : Int) else i.natAbs) = i := by
    by_cases hneg : i < 0
    · rw [if_pos (decide_eq_true hneg)]
      omega
    · rw [if_neg (by simpa using hneg)]
      omega
  have hzero : ¬(decide (i < 0) = true ∧ i.natAbs = 0) := by
    rw [decide_eq_true_eq]
    omega
  rw [readNumber_digits hmax hrest]
  simp only [integer, hsigned]
  rw [dif_pos ⟨hi, hzero⟩]

end ObjectPath.Json
