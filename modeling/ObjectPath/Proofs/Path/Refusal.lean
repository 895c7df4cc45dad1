import ObjectPath.Proofs.Path.Parsing

/-! Why a text is refused as a path: what stands where no segment can be read. -/
namespace ObjectPath.Path

open ObjectPath.Text

/-- Behind the bracket of a filter no dot with a name comes next. -/
def LacksResult (rest : List Char) : Prop := ∀ tail, rest = '.' :: tail → Stops tail

/-- Texts that do not start with a segment, read from a position, and the errors they make. -/
inductive Refused (position : Nat) : List Char → SyntaxError → Prop
  | unclosed {name text : List Char} (hname : IsName name) (hopen : ']' ∉ text) :
    Refused position (name ++ '[' :: text) (.unclosedBracket (position + byteLength name))
  | stray {name rest : List Char} (hname : IsName name) :
    Refused position (name ++ ']' :: rest) (.unexpected ']' (position + byteLength name))
  | nested {name body rest : List Char} (hname : IsName name) (hbody : IsUnbracketed body)
    (hclosed : ']' ∈ rest) :
    Refused position (name ++ '[' :: (body ++ '[' :: rest))
      (.unexpected '[' (position + byteLength name + 1 + byteLength body))
  | emptyKey {name rest : List Char} (hname : IsName name) :
    Refused position (name ++ '[' :: ']' :: rest) .emptyKey
  | behindKey {name token rest : List Char} {c : Char} (hname : IsName name) (hne : token ≠ [])
    (hfree : IsUnbracketed token) (hoperator : ¬ operator <:+: token) (hc : c ≠ '.') :
    Refused position (name ++ '[' :: (token ++ ']' :: c :: rest))
      (.unexpected c (position + byteLength name + 1 + byteLength token + 1))
  | emptyOperand {name field value rest : List Char} (hname : IsName name)
    (hbody : IsUnbracketed (field ++ operator ++ value)) (hfirst : JoinsFirst field value)
    (hblank : isBlank field = true ∨ isBlank value = true) :
    Refused position (name ++ '[' :: (field ++ operator ++ value ++ ']' :: rest)) .emptyOperand
  | noResult {name field value rest : List Char} (hname : IsName name) (hfield : IsOperand field)
    (hvalue : IsOperand value) (hfirst : JoinsFirst field value) (hrest : LacksResult rest) :
    Refused position (name ++ '[' :: (field ++ operator ++ value ++ ']' :: rest)) .missingResult
  | behindFilter {name field value result rest : List Char} {c : Char} (hname : IsName name)
    (hfield : IsOperand field) (hvalue : IsOperand value) (hfirst : JoinsFirst field value)
    (hne : result ≠ []) (hresult : IsName result) (hc : isNameChar c = false) :
    Refused position
      (name ++ '[' :: (field ++ operator ++ value ++ ']' :: '.' :: (result ++ c :: rest)))
      .trailingAfterFilter

theorem readSeparator_eq_error_iff {s : Segment} {c : Cursor} {e : SyntaxError} :
    readSeparator s c = .error e ↔
      ∃ char tail, char ≠ '.' ∧ c.rest = char :: tail ∧ e = .unexpected char c.position := by
  obtain ⟨position, rest⟩ := c
  cases rest with
  | nil => simp [readSeparator]
  | cons char tail =>
    by_cases hdot : char = '.'
    · subst hdot
      simp [readSeparator]
    · simp [readSeparator, hdot, eq_comm]

theorem lacksResult_dot {result more : List Char} (hresult : IsName result) (hmore : Stops more) :
    LacksResult ('.' :: (result ++ more)) ↔ result = [] := by
  constructor
  · intro h
    have hstop : Stops (result ++ more) := h _ rfl
    cases result with
    | nil => rfl
    | cons c cs =>
      have hname := isName_iff.mp hresult c List.mem_cons_self
      rw [hstop c rfl] at hname
      exact absurd hname (by decide)
  · intro h tail htail
    obtain ⟨-, rfl⟩ := List.cons.inj htail
    rwa [h]

theorem readResult_eq_error_iff {name field value rest : List Char} {e : SyntaxError} :
    readResult name field value rest = .error e ↔
      (e = .missingResult ∧ LacksResult rest) ∨
      (e = .trailingAfterFilter ∧ ∃ result c tail, result ≠ [] ∧ IsName result ∧
        isNameChar c = false ∧ rest = '.' :: (result ++ c :: tail)) := by
  constructor
  · intro h
    by_cases hdot : ∃ tail, rest = '.' :: tail
    · obtain ⟨tail, rfl⟩ := hdot
      obtain ⟨result, more, rfl, hresult, hmore⟩ := exists_name tail
      rw [readResult_dot hresult hmore] at h
      split at h
      · rename_i hnil
        exact .inl ⟨(Except.error.inj h).symm, (lacksResult_dot hresult hmore).mpr hnil⟩
      · rename_i hne
        cases more with
        | nil => simp at h
        | cons c tail =>
          rw [if_neg (List.cons_ne_nil c tail)] at h
          exact .inr ⟨(Except.error.inj h).symm, result, c, tail, hne, hresult, hmore c rfl, rfl⟩
    · have hlacks : LacksResult rest := fun tail htail => absurd ⟨tail, htail⟩ hdot
      unfold readResult at h
      split at h
      · exact absurd ⟨_, rfl⟩ hdot
      · exact .inl ⟨(Except.error.inj h).symm, hlacks⟩
  · rintro (⟨rfl, hlacks⟩ | ⟨rfl, result, c, tail, hne, hresult, hc, rfl⟩)
    · unfold readResult
      split
      · rename_i tail
        obtain ⟨result, more, rfl, hresult, hmore⟩ := exists_name tail
        have hnil := (lacksResult_dot hresult hmore).mp hlacks
        simp only [takeWhile_name hresult hmore]
        exact if_pos (List.isEmpty_iff.mpr hnil)
      · rfl
    · have hstop : Stops (c :: tail) := by simpa [Stops] using hc
      rw [readResult_dot hresult hstop, if_neg hne, if_neg (List.cons_ne_nil c tail)]

theorem refused_of_unbracketed {name body rest : List Char} (hname : IsName name)
    (hbody : IsUnbracketed body) {position : Nat} {e : SyntaxError}
    (h : readClause name (position + byteLength name) (body ++ ']' :: rest) = .error e) :
    Refused position (name ++ '[' :: (body ++ ']' :: rest)) e := by
  rw [readClause_closed hbody.2, if_neg hbody.1] at h
  cases hsplit : splitOperator body with
  | some sides =>
    obtain ⟨field, value⟩ := sides
    obtain ⟨rfl, hfirst⟩ := splitOperator_eq_some hsplit
    rw [hsplit] at h
    by_cases hblank : isBlank field = true ∨ isBlank value = true
    · simp only [Bool.or_eq_true, hblank, if_true] at h
      rw [← Except.error.inj h]
      exact .emptyOperand hname hbody hfirst hblank
    · simp only [Bool.or_eq_true, hblank, if_false] at h
      obtain ⟨hfield, hvalue⟩ := operands_of_unbracketed hbody hblank
      rcases readResult_eq_error_iff.mp h with
        ⟨rfl, hlacks⟩ | ⟨rfl, result, c, tail, hne, hresult, hc, rfl⟩
      · exact .noResult hname hfield hvalue hfirst hlacks
      · exact .behindFilter hname hfield hvalue hfirst hne hresult hc
  | none =>
    rw [hsplit] at h
    by_cases hempty : body = []
    · subst hempty
      simp only [List.isEmpty_nil, if_true] at h
      rw [← Except.error.inj h]
      exact .emptyKey hname
    · simp only [List.isEmpty_eq_false_iff.mpr hempty, Bool.false_eq_true, if_false] at h
      obtain ⟨c, tail, hc, hrest, rfl⟩ := readSeparator_eq_error_iff.mp h
      simp only at hrest
      subst hrest
      exact .behindKey hname hempty hbody (splitOperator_eq_none_iff.mp hsplit) hc

theorem refused_of_readClause {name text : List Char} (hname : IsName name) {position : Nat}
    {e : SyntaxError} (h : readClause name (position + byteLength name) text = .error e) :
    Refused position (name ++ '[' :: text) e := by
  by_cases hclose : ']' ∈ text
  · obtain ⟨body, rest, rfl, hbody⟩ := List.eq_append_cons_of_mem hclose
    by_cases hopen : '[' ∈ body
    · obtain ⟨front, back, rfl, hfront⟩ := List.eq_append_cons_of_mem hopen
      rw [readClause_closed hbody, if_pos hopen, takeWhile_bne hfront] at h
      rw [← Except.error.inj h, List.append_assoc, List.cons_append]
      have hfree : IsUnbracketed front := ⟨hfront, fun hin => hbody (List.mem_append_left _ hin)⟩
      exact .nested hname hfree (by simp)
    · exact refused_of_unbracketed hname ⟨hopen, hbody⟩ h
  · rw [readClause_unclosed hclose] at h
    rw [← Except.error.inj h]
    exact .unclosed hname hclose

theorem refused_of_readSegment {c : Cursor} {e : SyntaxError} (h : readSegment c = .error e) :
    Refused c.position c.rest e := by
  obtain ⟨position, cs⟩ := c
  obtain ⟨name, rest, rfl, hname, hrest⟩ := exists_name cs
  by_cases hopen : ∃ text, rest = '[' :: text
  · obtain ⟨text, rfl⟩ := hopen
    rw [readSegment_clause hname] at h
    exact refused_of_readClause hname h
  · have hplain : ∀ text, rest ≠ '[' :: text := fun text he => hopen ⟨text, he⟩
    rw [readSegment_field hname hrest hplain] at h
    obtain ⟨c, tail, hc, htail, rfl⟩ := readSeparator_eq_error_iff.mp h
    simp only at htail
    subst htail
    have hstop := hrest c rfl
    have hne : c ≠ '[' := fun he => hplain tail (he ▸ rfl)
    have hclose : c = ']' := by simpa [isNameChar, hc, hne] using hstop
    rw [hclose]
    exact .stray hname

theorem Refused.readSegment_eq {position : Nat} {cs : List Char} {e : SyntaxError}
    (h : Refused position cs e) : readSegment ⟨position, cs⟩ = .error e := by
  cases h with
  | unclosed hname hopen => rw [readSegment_clause hname, readClause_unclosed hopen]
  | @stray name rest hname =>
    have hstop : Stops (']' :: rest) := by simp [Stops, isNameChar]
    rw [readSegment_field hname hstop (by simp)]
    rfl
  | @nested name body rest hname hbody hclosed =>
    obtain ⟨front, back, rfl, hfront⟩ := List.eq_append_cons_of_mem hclosed
    have hclose : ']' ∉ body ++ '[' :: front := by simp [hbody.2, hfront]
    have hclause := readClause_closed hclose name back (position + byteLength name)
    rw [if_pos (by simp), takeWhile_bne hbody.1] at hclause
    rw [readSegment_clause hname, ← hclause]
    simp
  | @emptyKey name rest hname =>
    have hfree : IsUnbracketed [] := by decide
    have hclause := readClause_closed hfree.2 name rest (position + byteLength name)
    rw [readSegment_clause hname]
    exact hclause
  | behindKey hname hne hfree hoperator hc =>
    rw [readSegment_clause hname, readClause_key hne hfree hoperator]
    exact readSeparator_eq_error_iff.mpr ⟨_, _, hc, rfl, rfl⟩
  | @emptyOperand name field value rest hname hbody hfirst hblank =>
    have hsplit : splitOperator (field ++ operator ++ value) = some (field, value) :=
      splitOperator_eq_some_iff.mpr ⟨rfl, hfirst⟩
    rw [readSegment_clause hname, readClause_closed hbody.2, if_neg hbody.1, hsplit]
    simp [hblank]
  | noResult hname hfield hvalue hfirst hrest =>
    rw [readSegment_clause hname, readClause_filter hfield hvalue hfirst]
    exact readResult_eq_error_iff.mpr (.inl ⟨rfl, hrest⟩)
  | @behindFilter name field value result rest c hname hfield hvalue hfirst hne hresult hc =>
    rw [readSegment_clause hname, readClause_filter hfield hvalue hfirst]
    exact readResult_eq_error_iff.mpr (.inr ⟨rfl, result, c, rest, hne, hresult, hc, rfl⟩)

/-- The text of segments in front of others, each with the dot behind it. -/
def leading (front : List Segment) : List Char := front.flatMap fun s => s.chars ++ ['.']

def CanLead (front : List Segment) : Prop := ∀ s ∈ front, s.WellFormed ∧ s.isFilter = false

theorem byteLength_leading_cons (s : Segment) (front : List Segment) :
    byteLength (leading (s :: front)) = byteLength s.chars + 1 + byteLength (leading front) := by
  have hdot : Char.utf8Size '.' = 1 := rfl
  simp only [leading, List.flatMap_cons, byteLength_append, byteLength_cons, byteLength_nil, hdot]

theorem charsOf_concat (front : List Segment) (s : Segment) :
    charsOf (front ++ [s]) = leading front ++ s.chars := by
  induction front with
  | nil => rfl
  | cons t front ih =>
    rw [List.cons_append, leading, List.flatMap_cons, List.append_assoc, List.append_assoc,
      ← leading, ← ih]
    cases front <;> rfl

theorem wellFormed_concat {front : List Segment} (hfront : CanLead front) {s : Segment}
    (hs : s.WellFormed) : WellFormed (front ++ [s]) := by
  induction front with
  | nil => exact wellFormed_singleton.mpr hs
  | cons t front ih =>
    obtain ⟨ht, hfree⟩ := hfront t List.mem_cons_self
    have hrest := ih fun u hu => hfront u (List.mem_cons_of_mem t hu)
    cases front with
    | nil => exact wellFormed_cons_cons.mpr ⟨ht, hfree, hrest⟩
    | cons u more => exact wellFormed_cons_cons.mpr ⟨ht, hfree, hrest⟩

theorem WellFormed.exists_concat {segments : List Segment} (h : WellFormed segments) :
    ∃ front s, segments = front ++ [s] ∧ CanLead front ∧ s.WellFormed := by
  let front := segments.dropLast
  let s := segments.getLast h.nonempty
  have hconcat : segments = front ++ [s] := (List.dropLast_append_getLast h.nonempty).symm
  rw [hconcat] at h
  refine ⟨front, s, hconcat, ?_, h.each s (by simp)⟩
  intro t ht
  exact ⟨h.each t (List.mem_append_left _ ht), h.isFilter_of_mem_front (by simp) t ht⟩

/-- Segments that others may follow are read, and the reader goes on behind them. -/
theorem readSegments_leading {front : List Segment} (h : CanLead front) (position : Nat)
    (rest : List Char) :
    readSegments ⟨position, leading front ++ rest⟩ =
      (readSegments ⟨position + byteLength (leading front), rest⟩).map (front ++ ·) := by
  induction front generalizing position with
  | nil =>
    show readSegments ⟨position, rest⟩ = (readSegments ⟨position, rest⟩).map fun more => more
    cases readSegments ⟨position, rest⟩ <;> rfl
  | cons s front ih =>
    obtain ⟨hs, hfree⟩ := h s List.mem_cons_self
    have hfront : CanLead front := fun t ht => h t (List.mem_cons_of_mem s ht)
    let next : Cursor := ⟨position + byteLength s.chars + 1, leading front ++ rest⟩
    have hreads : Reads ⟨position, leading (s :: front) ++ rest⟩ s (some next) := by
      refine ⟨hs, by simp [leading, behind, next], ?_, ?_⟩
      · intro hfilter
        rw [hfree] at hfilter
        exact absurd hfilter (by decide)
      · intro d hd
        rw [← Option.some.inj hd]
    have hlength : position + byteLength s.chars + 1 + byteLength (leading front) =
        position + byteLength (leading (s :: front)) := by
      rw [byteLength_leading_cons]
      omega
    rw [readSegments_eq, hreads.readSegment_eq]
    simp only [next]
    rw [ih hfront, hlength]
    cases readSegments ⟨position + byteLength (leading (s :: front)), rest⟩ <;> rfl

/-- A text is refused behind the segments that can be read, for the reason that is found there. -/
theorem readSegments_eq_error_iff {c : Cursor} {e : SyntaxError} :
    readSegments c = .error e ↔
      ∃ front fragment, CanLead front ∧ c.rest = leading front ++ fragment ∧
        Refused (c.position + byteLength (leading front)) fragment e := by
  constructor
  · intro h
    fun_induction readSegments c with
    | case1 c f hf =>
      obtain rfl := Except.error.inj h
      exact ⟨[], c.rest, by simp [CanLead], rfl, refused_of_readSegment hf⟩
    | case2 c s hs => simp at h
    | case3 c s d hs ih =>
      have hd : readSegments d = .error e := by
        cases hd : readSegments d with
        | error f => rw [hd] at h; exact h
        | ok more => simp [hd, Except.map] at h
      obtain ⟨front, fragment, hfront, htext, hrefused⟩ := ih hd
      have hreads := reads_of_readSegment hs
      have hfree := hreads.isFilter_eq_false
      have hposition := hreads.position d rfl
      refine ⟨s :: front, fragment, List.forall_mem_cons.mpr ⟨⟨hreads.wellFormed, hfree⟩, hfront⟩,
        ?_, ?_⟩
      · rw [hreads.text, behind, htext]
        simp [leading]
      · have hlength : d.position + byteLength (leading front) =
            c.position + byteLength (leading (s :: front)) := by
          rw [byteLength_leading_cons, hposition]
          omega
        rwa [← hlength]
  · rintro ⟨front, fragment, hfront, htext, hrefused⟩
    obtain ⟨position, cs⟩ := c
    simp only at htext hrefused
    rw [htext, readSegments_leading hfront, readSegments_eq, hrefused.readSegment_eq]
    rfl

/-- The text of a segment may stand behind those of segments that others may follow. -/
theorem parse_leading {front : List Segment} (hfront : CanLead front) {s : Segment}
    (hs : s.WellFormed) :
    parse (String.ofList (leading front ++ s.chars)) = .ok ⟨front ++ [s]⟩ := by
  rw [← charsOf_concat]
  exact parse_render (wellFormed_concat hfront hs)

theorem parse_name {front : List Segment} (hfront : CanLead front) {name : List Char}
    (hname : IsName name) :
    parse (String.ofList (leading front ++ name)) =
      .ok ⟨front ++ [.field (String.ofList name)]⟩ := by
  have hs : (Segment.field (String.ofList name)).WellFormed := by
    refine ⟨?_, trivial⟩
    simpa [Segment.field] using hname
  have hchars : (Segment.field (String.ofList name)).chars = name := by
    simp [Segment.field, Segment.chars, Clause.chars]
  have hparse := parse_leading hfront hs
  rwa [hchars] at hparse

theorem parse_key {front : List Segment} (hfront : CanLead front) {name token : List Char}
    (hname : IsName name) (hne : token ≠ []) (hfree : IsUnbracketed token)
    (hoperator : ¬ operator <:+: token) :
    parse (String.ofList (leading front ++ (name ++ '[' :: (token ++ [']'])))) =
      .ok ⟨front ++ [.key (String.ofList name) (String.ofList token)]⟩ := by
  have hs : (Segment.key (String.ofList name) (String.ofList token)).WellFormed := by
    refine ⟨by simpa [Segment.key] using hname, ?_⟩
    simpa [Segment.key, Clause.WellFormed] using ⟨hne, hfree, hoperator⟩
  have hchars : (Segment.key (String.ofList name) (String.ofList token)).chars =
      name ++ '[' :: (token ++ [']']) := by
    simp [Segment.key, Segment.chars, Clause.chars]
  have hparse := parse_leading hfront hs
  rwa [hchars] at hparse

theorem parse_filter {front : List Segment} (hfront : CanLead front)
    {name field value result : List Char} (hname : IsName name) (hfield : IsOperand field)
    (hvalue : IsOperand value) (hfirst : JoinsFirst field value) (hne : result ≠ [])
    (hresult : IsName result) :
    ∃ p, parse (String.ofList
      (leading front ++ (name ++ '[' :: (field ++ operator ++ value ++ ']' :: '.' :: result)))) =
        .ok p := by
  let s : Segment := .filter (String.ofList name) (String.ofList field) (String.ofList value)
    (String.ofList result)
  have hs : s.WellFormed := by
    refine ⟨by simpa [s, Segment.filter] using hname, ?_⟩
    simpa [s, Segment.filter, Clause.WellFormed] using ⟨hfield, hvalue, hfirst, hne, hresult⟩
  have hchars : s.chars =
      name ++ '[' :: (field ++ operator ++ value ++ ']' :: '.' :: result) := by
    simp [s, Segment.filter, Segment.chars, Clause.chars, operator]
  have hparse := parse_leading hfront hs
  rw [hchars] at hparse
  exact ⟨_, hparse⟩

theorem parse_eq_error_iff {text : String} {e : SyntaxError} :
    parse text = .error e ↔
      ∃ front fragment, CanLead front ∧ text.toList = leading front ++ fragment ∧
        Refused (byteLength (leading front)) fragment e := by
  have hread : parse text = .error e ↔ readSegments (.start text.toList) = .error e := by
    rw [parse]
    cases readSegments (.start text.toList) <;> simp [Except.map]
  rw [hread, readSegments_eq_error_iff]
  simp [Cursor.start]

end ObjectPath.Path
