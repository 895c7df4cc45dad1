import ObjectPath.Value.Key

/-! The tokens that denote integers and keys; the decimal form of an integer is one of them. -/
namespace ObjectPath

namespace Numeral

def IsDigits (cs : List Char) : Prop := cs ≠ [] ∧ ∀ c ∈ cs, c.isDigit = true

/-- What a token denotes: digits alone or after a plus, or after a minus where there are signs. -/
inductive Denotes (signed : Bool) : List Char → Int → Prop
  | digits {cs : List Char} (h : IsDigits cs) : Denotes signed cs (value cs)
  | plus {cs : List Char} (h : IsDigits cs) : Denotes signed ('+' :: cs) (value cs)
  | minus {cs : List Char} (hsigned : signed = true) (h : IsDigits cs) :
    Denotes signed ('-' :: cs) (-value cs)

theorem isDigits_digits (n : Nat) : IsDigits (digits n) :=
  ⟨Nat.toDigits_ne_nil, fun _ => isDigit_of_mem_digits⟩

theorem magnitude?_eq_some_iff {cs : List Char} {n : Nat} :
    magnitude? cs = some n ↔ IsDigits cs ∧ value cs = n := by
  have hdigits : (cs.isEmpty || !cs.all Char.isDigit) = false ↔ IsDigits cs := by
    simp [IsDigits]
  unfold magnitude?
  split
  · rename_i hother
    constructor
    · intro h
      simp at h
    · intro ⟨h, _⟩
      rw [hdigits.mpr h] at hother
      exact absurd hother Bool.false_ne_true
  · rename_i hcs
    rw [Bool.not_eq_true, hdigits] at hcs
    simp [hcs]

theorem IsDigits.integer?_eq {cs : List Char} (h : IsDigits cs) (signed : Bool) :
    integer? signed cs = some (value cs : Int) := by
  have hmagnitude : magnitude? cs = some (value cs) := magnitude?_eq_some_iff.mpr ⟨h, rfl⟩
  unfold integer?
  split
  · exact absurd (h.2 '+' List.mem_cons_self) (by decide)
  · exact absurd (h.2 '-' List.mem_cons_self) (by decide)
  · rw [hmagnitude]
    rfl

theorem integer?_eq_some_iff {signed : Bool} {token : List Char} {i : Int} :
    integer? signed token = some i ↔ Denotes signed token i := by
  constructor
  · intro h
    unfold integer? at h
    split at h
    · obtain ⟨n, hn, rfl⟩ := Option.map_eq_some_iff.mp h
      obtain ⟨hdigits, rfl⟩ := magnitude?_eq_some_iff.mp hn
      exact .plus hdigits
    · split at h
      · rename_i hsigned
        obtain ⟨n, hn, rfl⟩ := Option.map_eq_some_iff.mp h
        obtain ⟨hdigits, rfl⟩ := magnitude?_eq_some_iff.mp hn
        exact .minus hsigned hdigits
      · simp at h
    · obtain ⟨n, hn, rfl⟩ := Option.map_eq_some_iff.mp h
      obtain ⟨hdigits, rfl⟩ := magnitude?_eq_some_iff.mp hn
      exact .digits hdigits
  · intro h
    cases h with
    | digits h => exact h.integer?_eq signed
    | plus h =>
      rw [integer?, magnitude?_eq_some_iff.mpr ⟨h, rfl⟩]
      rfl
    | minus hsigned h =>
      rw [integer?, if_pos hsigned, magnitude?_eq_some_iff.mpr ⟨h, rfl⟩]
      rfl

/-- An integer is denoted by its decimal form, which has a sign only if the integer has one. -/
theorem denotes_intDigits {signed : Bool} {i : Int} (h : i < 0 → signed = true) :
    Denotes signed (intDigits i) i := by
  have hdigits := isDigits_digits i.natAbs
  by_cases hi : i < 0
  · have hminus : Denotes signed ('-' :: digits i.natAbs) (-value (digits i.natAbs)) :=
      .minus (h hi) hdigits
    have hvalue : -(value (digits i.natAbs) : Int) = i := by
      rw [value_digits]
      omega
    rw [intDigits, if_pos hi]
    rwa [hvalue] at hminus
  · have hplain : Denotes signed (digits i.natAbs) (value (digits i.natAbs)) := .digits hdigits
    have hvalue : (value (digits i.natAbs) : Int) = i := by
      rw [value_digits]
      omega
    rw [intDigits, if_neg hi]
    rwa [hvalue] at hplain

end Numeral

/-- Only signed types have negative integers. -/
theorem IntegerType.Contains.signed {t : IntegerType} {i : Int} (h : t.Contains i) (hi : i < 0) :
    t.signed = true := by
  cases hsigned : t.signed with
  | true => rfl
  | false =>
    have hleast : t.least = 0 := if_neg (hsigned ▸ Bool.false_ne_true)
    have hle : t.least ≤ i := h.1
    omega

namespace Integer

theorem read?_eq_some_iff {t : IntegerType} {token : List Char} {n : Integer} :
    read? t token = some n ↔ n.type = t ∧ Numeral.Denotes t.signed token n.value := by
  rw [← Numeral.integer?_eq_some_iff]
  unfold read?
  cases hread : Numeral.integer? t.signed token with
  | none => simp
  | some i =>
    simp only [Option.some.injEq]
    split
    · rename_i hrange
      rw [Option.some.injEq]
      constructor
      · intro h
        rw [← h]
        exact ⟨rfl, rfl⟩
      · intro ⟨htype, hvalue⟩
        obtain ⟨type, value, _⟩ := n
        subst htype
        subst hvalue
        rfl
    · rename_i hrange
      constructor
      · intro h
        simp at h
      · intro ⟨htype, hvalue⟩
        rw [hvalue, ← htype] at hrange
        exact absurd n.inRange hrange

theorem denotes_chars (n : Integer) : Numeral.Denotes n.type.signed n.chars n.value :=
  Numeral.denotes_intDigits n.inRange.signed

end Integer

/-- The tokens of a key: a text itself, and every numeral of an integer. -/
def Key.HasToken (token : String) : Key → Prop
  | text s => token = s
  | integer n => Numeral.Denotes n.type.signed token.toList n.value

theorem Key.hasToken_label (k : Key) : k.HasToken k.label := by
  cases k with
  | text s => rfl
  | integer n =>
    show Numeral.Denotes n.type.signed n.render.toList n.value
    rw [Integer.render_toList]
    exact n.denotes_chars

/-- A token is read as a key of a type exactly when it is one of the tokens of the key. -/
theorem KeyType.read?_eq_some_iff {keyType : KeyType} {token : String} {k : Key} :
    keyType.read? token = some k ↔ k.type = keyType ∧ k.HasToken token := by
  cases keyType with
  | text =>
    cases k with
    | text s => simp [read?, Key.type, Key.HasToken]
    | integer n => simp [read?, Key.type]
  | integer t =>
    rw [read?, Option.map_eq_some_iff]
    cases k with
    | text s => simp [Key.type]
    | integer n =>
      simp only [Key.integer.injEq, exists_eq_right, Integer.read?_eq_some_iff, Key.type,
        KeyType.integer.injEq]
      constructor
      · rintro ⟨rfl, hdenotes⟩
        exact ⟨rfl, hdenotes⟩
      · rintro ⟨rfl, hdenotes⟩
        exact ⟨rfl, hdenotes⟩

end ObjectPath
