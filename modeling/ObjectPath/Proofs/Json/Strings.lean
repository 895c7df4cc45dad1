import ObjectPath.Json.Printer
import ObjectPath.Json.StringReader

/-! String literals are read back from their written form. -/
namespace ObjectPath.Json

theorem hexValue?_digitChar : ∀ n < 16, hexValue? (Nat.digitChar n) = some n := by decide

theorem readHex_control {n : Nat} (hn : n < 0x20) (rest : List Char) :
    readHex ('0' :: '0' :: Nat.digitChar (n / 16) :: Nat.digitChar (n % 16) :: rest) =
      .ok (n, rest) := by
  have hhigh : hexValue? (Nat.digitChar (n / 16)) = some (n / 16) :=
    hexValue?_digitChar _ (by omega)
  have hlow : hexValue? (Nat.digitChar (n % 16)) = some (n % 16) :=
    hexValue?_digitChar _ (by omega)
  have hzero : hexValue? '0' = some 0 := by decide
  have hvalue : hexValue4? '0' '0' (Nat.digitChar (n / 16)) (Nat.digitChar (n % 16)) = some n := by
    simp only [hexValue4?, hhigh, hlow, hzero, Option.bind_eq_bind, Option.bind_some]
    apply congrArg some
    omega
  have hlong : ¬ Text.byteLength
      ('0' :: '0' :: Nat.digitChar (n / 16) :: Nat.digitChar (n % 16) :: rest) < 4 := by
    have hfirst := Char.utf8Size_pos '0'
    have hthird := Char.utf8Size_pos (Nat.digitChar (n / 16))
    have hfourth := Char.utf8Size_pos (Nat.digitChar (n % 16))
    simp only [Text.byteLength_cons]
    omega
  simp only [readHex, if_neg hlong, hvalue]

theorem readUnicode_control {c : Char} (hc : c.toNat < 0x20) (rest : List Char) :
    readUnicode ('0' :: '0' :: Nat.digitChar (c.toNat / 16) :: Nat.digitChar (c.toNat % 16) :: rest) =
      .ok (c, rest) := by
  have htrailing : isTrailing c.toNat = false := by
    simp only [isTrailing, Bool.and_eq_false_iff, decide_eq_false_iff_not]
    omega
  have hleading : isLeading c.toNat = false := by
    simp only [isLeading, Bool.and_eq_false_iff, decide_eq_false_iff_not]
    omega
  simp [readUnicode, readHex_control hc, bind, Except.bind, htrailing, hleading]

theorem readChars_escape {cs rest : List Char} {c : Char} (h : readEscape cs = .ok (c, rest)) :
    readChars ('\\' :: cs) = (readChars rest).map fun (text, rest) => (c :: text, rest) := by
  rw [readChars]
  split <;> simp_all

theorem readChars_plain {c : Char} (hquote : c ≠ '"') (hslash : c ≠ '\\') (hc : ¬ c.toNat < 0x20)
    (rest : List Char) :
    readChars (c :: rest) = (readChars rest).map fun (text, rest) => (c :: text, rest) := by
  rw [readChars.eq_def]
  split
  case h_1 heq => simp at heq
  case h_2 heq => exact absurd (List.cons.inj heq).1 hquote
  case h_3 heq => exact absurd (List.cons.inj heq).1 hslash
  case h_4 heq =>
    obtain ⟨rfl, rfl⟩ := List.cons.inj heq
    rw [if_neg hc]

/-- A character is read back from what stands for it in a literal. -/
theorem readChars_escapeChar (c : Char) (rest : List Char) :
    readChars (escapeChar c ++ rest) =
      (readChars rest).map fun (text, rest) => (c :: text, rest) := by
  by_cases hquote : c = '"'
  · subst hquote
    exact readChars_escape rfl
  by_cases hslash : c = '\\'
  · subst hslash
    exact readChars_escape rfl
  by_cases hbackspace : c = '\x08'
  · subst hbackspace
    exact readChars_escape rfl
  by_cases hfeed : c = '\x0c'
  · subst hfeed
    exact readChars_escape rfl
  by_cases hline : c = '\n'
  · subst hline
    exact readChars_escape rfl
  by_cases hreturn : c = '\r'
  · subst hreturn
    exact readChars_escape rfl
  by_cases htab : c = '\t'
  · subst htab
    exact readChars_escape rfl
  simp only [escapeChar, hquote, hslash, hbackspace, hfeed, hline, hreturn, htab, if_false]
  by_cases hc : c.toNat < 0x20
  · rw [if_pos hc]
    exact readChars_escape (readUnicode_control hc rest)
  · rw [if_neg hc]
    exact readChars_plain hquote hslash hc rest

theorem readChars_flatMap (cs rest : List Char) :
    readChars (cs.flatMap escapeChar ++ '"' :: rest) = .ok (cs, rest) := by
  induction cs with
  | nil =>
    rw [List.flatMap_nil, List.nil_append, readChars]
  | cons c cs ih =>
    rw [List.flatMap_cons, List.append_assoc, readChars_escapeChar, ih]
    rfl

/-- A string is read back from its literal. -/
theorem readString_stringChars (s : String) (rest : List Char) :
    readString (s.toList.flatMap escapeChar ++ '"' :: rest) = .ok (s, rest) := by
  rw [readString, readChars_flatMap]
  simp only [Except.map, String.ofList_toList]

end ObjectPath.Json
