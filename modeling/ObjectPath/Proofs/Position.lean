import ObjectPath.Value.Access

/-! The numerals of positions, and the items of sequences that they select. -/
namespace ObjectPath

namespace Numeral

/-- Only the numeral of zero starts with a zero. -/
theorem digits_eq_cons {n : Nat} (hn : 0 < n) : ∃ c cs, digits n = c :: cs ∧ c ≠ '0' := by
  unfold digits
  induction n using Nat.base_induction 10 (by decide) with
  | single m hm =>
    refine ⟨m.digitChar, [], Nat.toDigits_of_lt_base hm, ?_⟩
    intro h
    have hvalue := Nat.toNat_digitChar_sub_48_of_lt_ten hm
    rw [h] at hvalue
    simp at hvalue
    omega
  | digit m k hk hm ih =>
    obtain ⟨c, cs, hcs, hc⟩ := ih hm
    refine ⟨c, cs ++ Nat.toDigits 10 k, ?_, hc⟩
    rw [← Nat.toDigits_append_toDigits (by decide) hm hk, hcs, List.cons_append]

theorem isPosition_digits (n : Nat) : isPosition (digits n) = true := by
  rcases Nat.eq_zero_or_pos n with rfl | hn
  · rw [digits, Nat.toDigits_zero]
    rfl
  · obtain ⟨c, cs, hcs, hc⟩ := digits_eq_cons hn
    have hall : (digits n).all Char.isDigit = true := by
      rw [List.all_eq_true]
      intro d hd
      exact isDigit_of_mem_digits hd
    rw [hcs] at hall ⊢
    simpa [isPosition, hc] using hall

theorem position?_digits {n : Nat} (h : n ≤ maxPosition) : position? (digits n) = some n := by
  simp [position?, isPosition_digits, h]

private theorem digit_bounds {c : Char} (h : c.isDigit = true) :
    48 ≤ c.toNat ∧ c.toNat - '0'.toNat < 10 := by
  obtain ⟨hlow, hhigh⟩ := Char.isDigit_iff_toNat.mp h
  have hzero : '0'.toNat = 48 := rfl
  have hnine : '9'.toNat = 57 := rfl
  omega

theorem digits_of_isDigit {c : Char} (h : c.isDigit = true) :
    digits (c.toNat - '0'.toNat) = [c] := by
  obtain ⟨hlow, hlt⟩ := digit_bounds h
  have hzero : '0'.toNat = 48 := rfl
  have hchar : Nat.digitChar (c.toNat - '0'.toNat) = c := by
    apply Char.toNat_inj.mp
    rw [Nat.toNat_digitChar_of_lt_ten hlt]
    omega
  rw [digits, Nat.toDigits_of_lt_base hlt, hchar]

/-- Digits behind the numeral of a number above zero make the numeral of a greater number. -/
theorem digits_append {n : Nat} (hn : 0 < n) {cs : List Char} (h : ∀ c ∈ cs, c.isDigit = true) :
    digits n ++ cs = digits (Nat.ofDigitChars 10 cs n) := by
  induction cs generalizing n with
  | nil => rw [Nat.ofDigitChars_nil, List.append_nil]
  | cons c cs ih =>
    obtain ⟨hc, hcs⟩ := List.forall_mem_cons.mp h
    have hone : digits n ++ [c] = digits (10 * n + (c.toNat - '0'.toNat)) := by
      rw [← digits_of_isDigit hc]
      exact Nat.toDigits_append_toDigits (by decide) hn (digit_bounds hc).2
    have hpos : 0 < 10 * n + (c.toNat - '0'.toNat) := by omega
    calc
      digits n ++ c :: cs = digits n ++ [c] ++ cs := by rw [List.append_assoc, List.singleton_append]
      _ = digits (10 * n + (c.toNat - '0'.toNat)) ++ cs := by rw [hone]
      _ = digits (Nat.ofDigitChars 10 (c :: cs) n) := by rw [ih hpos hcs, Nat.ofDigitChars_cons]

/-- A numeral of a position is the decimal form of its number. -/
theorem digits_value {cs : List Char} (h : isPosition cs = true) : digits (value cs) = cs := by
  unfold isPosition at h
  split at h
  · exact Bool.noConfusion h
  · rfl
  · exact Bool.noConfusion h
  · rename_i hnil _ hlead
    cases cs with
    | nil => exact absurd rfl hnil
    | cons c cs =>
      obtain ⟨hc, hcs⟩ := List.forall_mem_cons.mp (List.all_eq_true.mp h)
      have hpos : 0 < c.toNat - '0'.toNat := by
        have hne : c.toNat ≠ '0'.toNat := by
          intro heq
          exact hlead cs (by rw [Char.toNat_inj.mp heq])
        have hzero : '0'.toNat = 48 := rfl
        have hlow := (digit_bounds hc).1
        omega
      have hvalue : value (c :: cs) = Nat.ofDigitChars 10 cs (c.toNat - '0'.toNat) := by
        rw [value, Nat.ofDigitChars_cons, Nat.mul_zero, Nat.zero_add]
      rw [hvalue, ← digits_append hpos hcs, digits_of_isDigit hc, List.singleton_append]

/-- Each position is denoted by one token, which is its decimal form. -/
theorem position?_eq_some_iff {cs : List Char} {i : Nat} :
    position? cs = some i ↔ i ≤ maxPosition ∧ cs = digits i := by
  constructor
  · intro h
    unfold position? at h
    split at h
    · rename_i hcs
      rw [Bool.and_eq_true, decide_eq_true_eq] at hcs
      have hvalue : value cs = i := Option.some.inj h
      rw [← hvalue]
      exact ⟨hcs.2, (digits_value hcs.1).symm⟩
    · simp at h
  · intro ⟨hi, hcs⟩
    rw [hcs]
    exact position?_digits hi

end Numeral

namespace Value

theorem item?_digits {items : List Value} {i : Nat} (h : i ≤ Numeral.maxPosition) :
    item? items (String.ofList (Numeral.digits i)) = items[i]? := by
  rw [item?, String.toList_ofList, Numeral.position?_digits h]
  rfl

/-- A value with elements looks tokens up among them, whatever holds the sequence. -/
theorem lookup_eq_item? {v : Value} {elements : List Value} (h : v.elements? = some elements)
    (token : String) : v.lookup token = .ofOption (item? elements token) := by
  fun_induction elements? v with
  | case1 items =>
    rw [← Option.some.inj h]
    rfl
  | case2 layer v ih => exact ih h
  | case3 kind items =>
    rw [← Option.some.inj h]
    rfl
  | case4 v => simp at h

/-- The numeral of a position selects the element there. -/
theorem lookup_digits {v e : Value} {elements : List Value} {i : Nat}
    (helements : v.elements? = some elements) (hi : i ≤ Numeral.maxPosition)
    (he : elements[i]? = some e) : v.lookup (String.ofList (Numeral.digits i)) = .found e := by
  rw [lookup_eq_item? helements, item?_digits hi, he]
  rfl

end Value

end ObjectPath
