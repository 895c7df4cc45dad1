import ObjectPath.Proofs.Path.Refusal
import ObjectPath.Proofs.Path.Slicing

/-! The positions in the errors of paths: what stands there, and what the text before it is. -/
namespace ObjectPath.Path

open ObjectPath.Text

/-- At a byte offset of a text stands a character. -/
def StandsAt (text : String) (c : Char) (position : Nat) (before after : String) : Prop :=
  text = before ++ String.singleton c ++ after ∧ before.utf8ByteSize = position

theorem standsAt_ofList {text : String} {before after : List Char} {c : Char}
    (htext : text.toList = before ++ c :: after) :
    StandsAt text c (byteLength before) (String.ofList before) (String.ofList after) := by
  constructor
  · rw [← String.toList_inj, htext]
    simp
  · rw [← byteLength_toList, String.toList_ofList]

theorem standsAt_of_unclosed {text : String} {p : Nat}
    (h : parse text = .error (.unclosedBracket p)) :
    ∃ before after, StandsAt text '[' p before after ∧ ']' ∉ after.toList ∧
      ∃ path, parse before = .ok path := by
  obtain ⟨front, fragment, hfront, htext, hrefused⟩ := parse_eq_error_iff.mp h
  cases hrefused with
  | @unclosed name after hname hopen =>
    rw [← List.append_assoc] at htext
    have hstands := standsAt_ofList htext
    rw [byteLength_append] at hstands
    refine ⟨_, _, hstands, ?_, _, parse_name hfront hname⟩
    rwa [String.toList_ofList]

theorem standsAt_of_unexpected {text : String} {c : Char} {p : Nat}
    (h : parse text = .error (.unexpected c p)) :
    ∃ before after, StandsAt text c p before after ∧
      ((∃ path, parse before = .ok path) ∨
        c = '[' ∧ ∃ q < p, parse before = .error (.unclosedBracket q)) := by
  obtain ⟨front, fragment, hfront, htext, hrefused⟩ := parse_eq_error_iff.mp h
  cases hrefused with
  | @stray name after hname =>
    rw [← List.append_assoc] at htext
    have hstands := standsAt_ofList htext
    rw [byteLength_append] at hstands
    exact ⟨_, _, hstands, .inl ⟨_, parse_name hfront hname⟩⟩
  | @nested name body after hname hbody hclosed =>
    let before := leading front ++ (name ++ '[' :: body)
    have hbefore : text.toList = before ++ '[' :: after := by simp [before, htext]
    have hstands := standsAt_ofList hbefore
    have hopen : Char.utf8Size '[' = 1 := rfl
    have hposition : byteLength before =
        byteLength (leading front) + byteLength name + 1 + byteLength body := by
      simp only [before, byteLength_append, byteLength_cons, hopen]
      omega
    have hunclosed : parse (String.ofList before) =
        .error (.unclosedBracket (byteLength (leading front) + byteLength name)) :=
      parse_eq_error_iff.mpr
        ⟨front, _, hfront, String.toList_ofList, .unclosed hname hbody.2⟩
    rw [hposition] at hstands
    exact ⟨_, _, hstands, .inr ⟨rfl, _, by omega, hunclosed⟩⟩
  | @behindKey name token after c hname hne hfree hoperator hc =>
    let before := leading front ++ (name ++ '[' :: (token ++ [']']))
    have hbefore : text.toList = before ++ c :: after := by simp [before, htext]
    have hstands := standsAt_ofList hbefore
    have hopen : Char.utf8Size '[' = 1 := rfl
    have hclose : Char.utf8Size ']' = 1 := rfl
    have hposition : byteLength before =
        byteLength (leading front) + byteLength name + 1 + byteLength token + 1 := by
      simp only [before, byteLength_append, byteLength_cons, byteLength_nil, hopen, hclose]
      omega
    rw [hposition] at hstands
    exact ⟨_, _, hstands, .inl ⟨_, parse_key hfront hname hne hfree hoperator⟩⟩

/--
A path can be read by byte offsets without ever cutting inside of a character. The position in an
error is that of the bracket that is not closed, or of the character that may not stand there; what
stands before is a path, or a path with an open bracket where another one opens in it.
-/
theorem parse_error_position (text : String) :
    ((∀ n, (∃ parts, cut? text.toList n = some parts) ↔ String.Pos.Raw.IsValid text ⟨n⟩) ∧
      parseByOffsets? text = some (parse text)) ∧
    (∀ p, parse text = .error (.unclosedBracket p) →
      ∃ before after, StandsAt text '[' p before after ∧ ']' ∉ after.toList ∧
        ∃ path, parse before = .ok path) ∧
    (∀ c p, parse text = .error (.unexpected c p) →
      ∃ before after, StandsAt text c p before after ∧
        ((∃ path, parse before = .ok path) ∨
          c = '[' ∧ ∃ q < p, parse before = .error (.unclosedBracket q))) := by
  refine ⟨⟨exists_cut?_iff text, parseByOffsets?_eq text⟩, ?_, ?_⟩
  · intro p h
    exact standsAt_of_unclosed h
  · intro c p h
    exact standsAt_of_unexpected h

theorem parse_error_position_nested :
    parse "é.x[a[b]" = .error (.unexpected '[' 6) ∧
      ∃ before after, StandsAt "é.x[a[b]" '[' 6 before after ∧
        ((∃ path, parse before = .ok path) ∨
          '[' = '[' ∧ ∃ q < 6, parse before = .error (.unclosedBracket q)) := by
  have hfront : CanLead [.field "é"] := by
    simp only [CanLead, List.forall_mem_singleton]
    decide
  have hname : IsName ['x'] := by decide
  have hbody : IsUnbracketed ['a'] := by decide
  have hclosed : ']' ∈ ['b', ']'] := by decide
  have herror : parse "é.x[a[b]" = .error (.unexpected '[' 6) :=
    parse_eq_error_iff.mpr ⟨[.field "é"], _, hfront, rfl, .nested hname hbody hclosed⟩
  exact ⟨herror, (parse_error_position "é.x[a[b]").2.2 '[' 6 herror⟩

end ObjectPath.Path
