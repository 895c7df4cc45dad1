import ObjectPath.Text.Extending
import ObjectPath.Text.Hidden

/-! Quoted text: a text between double quotes, with the characters that do not show spelled out. -/
namespace ObjectPath.Text

def codeForm (c : Char) : List Char :=
  ['\\', 'u', '\x7b'] ++ Nat.toDigits 16 c.toNat ++ ['\x7d']

/-- The quoted form of one character. A combining character would join what stands before it. -/
def quoteChar (c : Char) : List Char :=
  if c = '"' then ['\\', '"']
  else if c = '\\' then ['\\', '\\']
  else if c = '\n' then ['\\', 'n']
  else if c = '\r' then ['\\', 'r']
  else if c = '\t' then ['\\', 't']
  else if c.toNat = 0 then ['\\', '0']
  else if isExtending c || isHidden c then codeForm c
  else [c]

/-- The visible characters of ASCII other than the quote and the backslash. -/
def isVisible (c : Char) : Bool :=
  0x20 ≤ c.toNat && c.toNat < 0x7F && c != '"' && c != '\\'

/-- Visible characters stand for themselves. -/
theorem quoteChar_of_visible {c : Char} (h : isVisible c = true) : quoteChar c = [c] := by
  simp only [isVisible, Bool.and_eq_true, decide_eq_true_eq, bne_iff_ne] at h
  obtain ⟨⟨⟨low, high⟩, quote⟩, backslash⟩ := h
  have newLine : c ≠ '\n' := by rintro rfl; exact absurd low (by decide)
  have carriageReturn : c ≠ '\r' := by rintro rfl; exact absurd low (by decide)
  have tab : c ≠ '\t' := by rintro rfl; exact absurd low (by decide)
  have zero : c.toNat ≠ 0 := by omega
  have extending : isExtending c = false := isExtending_of_lt (by omega)
  have hidden : isHidden c = false := by
    rw [isHidden_of_lt high]
    exact decide_eq_false (by omega)
  simp [quoteChar, quote, backslash, newLine, carriageReturn, tab, zero, extending, hidden]

theorem flatMap_quoteChar_of_visible {cs : List Char} (h : ∀ c ∈ cs, isVisible c = true) :
    cs.flatMap quoteChar = cs := by
  induction cs with
  | nil => rfl
  | cons c cs ih =>
    obtain ⟨hc, hcs⟩ := List.forall_mem_cons.mp h
    rw [List.flatMap_cons, quoteChar_of_visible hc, ih hcs, List.singleton_append]

/-- A text in double quotes, with quotes, backslashes and characters that do not show escaped. -/
def quote (s : String) : String :=
  String.ofList ('"' :: s.toList.flatMap quoteChar ++ ['"'])

theorem quote_toList (s : String) :
    (quote s).toList = '"' :: s.toList.flatMap quoteChar ++ ['"'] :=
  String.toList_ofList

/-- A text of visible characters is only put in quotes. -/
theorem quote_of_visible {s : String} (h : ∀ c ∈ s.toList, isVisible c = true) :
    quote s = "\"" ++ s ++ "\"" := by
  rw [← String.toList_inj, quote_toList, flatMap_quoteChar_of_visible h]
  simp

end ObjectPath.Text
