import ObjectPath.Json.Printer

/-! The compact text of a document is a single line, whatever its strings hold. -/
namespace ObjectPath

/-- A text on one line: none of its characters is a control character below the blank. -/
def Text.OneLine (cs : List Char) : Prop := ∀ c ∈ cs, 0x20 ≤ c.toNat

namespace Text.OneLine

@[simp] theorem nil : OneLine [] := List.forall_mem_nil _

@[simp] theorem cons_iff {c : Char} {cs : List Char} :
    OneLine (c :: cs) ↔ 0x20 ≤ c.toNat ∧ OneLine cs := List.forall_mem_cons

@[simp] theorem append_iff {cs ds : List Char} :
    OneLine (cs ++ ds) ↔ OneLine cs ∧ OneLine ds := List.forall_mem_append

theorem of_isDigit {cs : List Char} (h : ∀ c ∈ cs, c.isDigit = true) : OneLine cs := by
  intro c hc
  have hzero : 0x20 ≤ '0'.toNat := by decide
  have hdigit := Char.isDigit_iff_toNat.mp (h c hc)
  omega

theorem of_subset {cs ds : List Char} (h : OneLine ds) (hsub : cs ⊆ ds) : OneLine cs :=
  fun c hc => h c (hsub hc)

theorem replicate {c : Char} (hc : 0x20 ≤ c.toNat) (n : Nat) :
    OneLine (List.replicate n c) := by
  intro d hd
  rw [List.eq_of_mem_replicate hd]
  exact hc

end Text.OneLine

open Text

theorem Numeral.oneLine_digits (n : Nat) : OneLine (digits n) :=
  .of_isDigit fun _ => isDigit_of_mem_digits

theorem Numeral.oneLine_intDigits (i : Int) : OneLine (intDigits i) := by
  have hdigits := oneLine_digits i.natAbs
  unfold intDigits
  split
  · exact OneLine.cons_iff.mpr ⟨by decide, hdigits⟩
  · exact hdigits

namespace Decimal

theorem oneLine_positional (pointZero : Bool) (d : Decimal) :
    OneLine (d.positional pointZero) := by
  have hdigits := Numeral.oneLine_digits d.digits
  have hzeros (n : Nat) : OneLine (List.replicate n '0') := .replicate (by decide) n
  unfold positional
  dsimp only
  split
  · refine OneLine.append_iff.mpr ⟨?_, hdigits⟩
    exact OneLine.cons_iff.mpr ⟨by decide, OneLine.cons_iff.mpr ⟨by decide, hzeros _⟩⟩
  · split
    · refine OneLine.append_iff.mpr ⟨OneLine.append_iff.mpr ⟨hdigits, hzeros _⟩, ?_⟩
      cases pointZero <;> simp
    · refine OneLine.append_iff.mpr ⟨hdigits.of_subset (List.take_subset _ _), ?_⟩
      exact OneLine.cons_iff.mpr ⟨by decide, hdigits.of_subset (List.drop_subset _ _)⟩

theorem oneLine_scientific (d : Decimal) : OneLine d.scientific := by
  have hdigits := Numeral.oneLine_digits d.digits
  have hpower : OneLine ('e' :: (if d.leading < 0 then '-' else '+') ::
      Numeral.digits d.leading.natAbs) := by
    have hsign : 0x20 ≤ (if d.leading < 0 then '-' else '+').toNat := by
      split <;> decide
    exact OneLine.cons_iff.mpr ⟨by decide,
      OneLine.cons_iff.mpr ⟨hsign, Numeral.oneLine_digits _⟩⟩
  unfold scientific
  dsimp only
  split
  · rename_i first second rest heq
    rw [heq] at hdigits
    obtain ⟨hfirst, hrest⟩ := OneLine.cons_iff.mp hdigits
    refine OneLine.append_iff.mpr ⟨OneLine.cons_iff.mpr ⟨hfirst, ?_⟩, hpower⟩
    exact OneLine.cons_iff.mpr ⟨by decide, hrest⟩
  · exact OneLine.append_iff.mpr ⟨hdigits, hpower⟩

end Decimal

namespace Json

theorem Number.oneLine_chars (n : Number) : OneLine n.chars := by
  cases n with
  | integer i hi => exact Numeral.oneLine_intDigits i
  | float x =>
    have hlayout (d : Decimal) : OneLine
        (if -5 ≤ d.leading ∧ d.leading ≤ 15 then d.positional true else d.scientific) := by
      split
      · exact d.oneLine_positional true
      · exact d.oneLine_scientific
    unfold chars floatChars
    refine OneLine.append_iff.mpr ⟨?_, hlayout _⟩
    split <;> simp

theorem le_digitChar : ∀ n < 16, 0x20 ≤ (Nat.digitChar n).toNat := by decide

/-- What stands for a character in a literal; control characters are escaped. -/
theorem oneLine_escapeChar (c : Char) : OneLine (escapeChar c) := by
  have hescape (d : Char) (hd : 0x20 ≤ d.toNat) : OneLine ['\\', d] :=
    OneLine.cons_iff.mpr ⟨by decide, OneLine.cons_iff.mpr ⟨hd, .nil⟩⟩
  unfold escapeChar
  split
  · exact hescape '"' (by decide)
  split
  · exact hescape '\\' (by decide)
  split
  · exact hescape 'b' (by decide)
  split
  · exact hescape 'f' (by decide)
  split
  · exact hescape 'n' (by decide)
  split
  · exact hescape 'r' (by decide)
  split
  · exact hescape 't' (by decide)
  split
  · rename_i hc
    have hhigh := le_digitChar (c.toNat / 16) (by omega)
    have hlow := le_digitChar (c.toNat % 16) (by omega)
    simp [hhigh, hlow]
  · rename_i hc
    exact OneLine.cons_iff.mpr ⟨Nat.le_of_not_lt hc, .nil⟩

theorem oneLine_stringChars (s : String) : OneLine (stringChars s) := by
  have hbody : OneLine (s.toList.flatMap escapeChar) := by
    intro d hd
    obtain ⟨c, -, hc⟩ := List.mem_flatMap.mp hd
    exact oneLine_escapeChar c d hc
  have hopen : OneLine ('"' :: s.toList.flatMap escapeChar) :=
    OneLine.cons_iff.mpr ⟨by decide, hbody⟩
  exact OneLine.append_iff.mpr ⟨hopen, by simp⟩

mutual

/-- The text of a document is a single line, as the texts of its parts are. -/
theorem oneLine_chars : (j : Json) → OneLine j.chars
  | null => by simp [chars]
  | bool true => by simp [chars]
  | bool false => by simp [chars]
  | number n => by simpa [chars] using n.oneLine_chars
  | string s => by simpa [chars] using oneLine_stringChars s
  | array [] => by simp [chars]
  | array (x :: xs) => by
    have hx := oneLine_chars x
    have hxs := oneLine_moreItems xs
    simp [chars, hx, hxs]
  | object [] => by simp [chars]
  | object ((k, v) :: ms) => by
    have hk := oneLine_stringChars k
    have hv := oneLine_chars v
    have hms := oneLine_moreMembers ms
    simp [chars, hk, hv, hms]

theorem oneLine_moreItems : (xs : List Json) → OneLine (moreItems xs)
  | [] => by simp [moreItems]
  | x :: xs => by
    have hx := oneLine_chars x
    have hxs := oneLine_moreItems xs
    simp [moreItems, hx, hxs]

theorem oneLine_moreMembers : (ms : List (String × Json)) → OneLine (moreMembers ms)
  | [] => by simp [moreMembers]
  | (k, v) :: ms => by
    have hk := oneLine_stringChars k
    have hv := oneLine_chars v
    have hms := oneLine_moreMembers ms
    simp [moreMembers, hk, hv, hms]

end

end Json

end ObjectPath
