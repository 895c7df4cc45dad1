import ObjectPath.Proofs.Path.Clause

/-! Reading a path accepts the written forms of paths and gives back their segments. -/
namespace ObjectPath.Path

open ObjectPath.Text

theorem byteLength_key (name token : String) :
    byteLength (Segment.key name token).chars =
      byteLength name.toList + 1 + byteLength token.toList + 1 := by
  have hopen : Char.utf8Size '[' = 1 := rfl
  have hclose : Char.utf8Size ']' = 1 := rfl
  simp only [Segment.key, Segment.chars, Clause.chars, byteLength_append, byteLength_cons,
    byteLength_nil, hopen, hclose]
  omega

/-- What reading a segment at a place amounts to: the text there is the written segment. -/
structure Reads (c : Cursor) (s : Segment) (next : Option Cursor) : Prop where
  wellFormed : s.WellFormed
  text : c.rest = s.chars ++ behind next
  filterLast : s.isFilter = true → next = none
  position : ∀ d ∈ next, d.position = c.position + byteLength s.chars + 1

theorem Reads.isFilter_eq_false {c d : Cursor} {s : Segment} (h : Reads c s (some d)) :
    s.isFilter = false := by
  rw [← Bool.not_eq_true]
  intro hfilter
  have hnone := h.filterLast hfilter
  exact Option.some_ne_none d hnone

theorem reads_of_readSegment {c : Cursor} {s : Segment} {next : Option Cursor}
    (h : readSegment c = .ok (s, next)) : Reads c s next := by
  obtain ⟨position, cs⟩ := c
  obtain ⟨name, rest, rfl, hname, hrest⟩ := exists_name cs
  have hname' : IsName (String.ofList name).toList := by rwa [String.toList_ofList]
  by_cases hopen : ∃ text, rest = '[' :: text
  · obtain ⟨text, rfl⟩ := hopen
    rw [readSegment_clause hname] at h
    rcases readClause_eq_ok h with ⟨token, rest, hne, hfree, hoperator, rfl, hstep⟩ |
      ⟨field, value, rest, hfield, hvalue, hfirst, rfl, hstep⟩
    · obtain ⟨rfl, htext, hposition⟩ := readSeparator_eq_ok_iff.mp hstep
      simp only at htext hposition
      refine ⟨⟨hname', ?_⟩, ?_, ?_, ?_⟩
      · simpa [Segment.key, Clause.WellFormed] using ⟨hne, hfree, hoperator⟩
      · simp [Segment.key, Segment.chars, Clause.chars, htext]
      · simp [Segment.key, Segment.isFilter, Clause.isFilter]
      · intro d hd
        have hlength := byteLength_key (String.ofList name) (String.ofList token)
        simp only [String.toList_ofList] at hlength
        rw [hposition d hd, hlength]
        simp only
        omega
    · obtain ⟨rfl, result, hne, hresult, rfl, rfl⟩ := readResult_eq_ok_iff.mp hstep
      refine ⟨⟨hname', ?_⟩, ?_, fun _ => rfl, by simp⟩
      · simpa [Segment.filter, Clause.WellFormed] using ⟨hfield, hvalue, hfirst, hne, hresult⟩
      · simp [Segment.filter, Segment.chars, Clause.chars, operator, behind]
  · have hplain : ∀ text, rest ≠ '[' :: text := fun text he => hopen ⟨text, he⟩
    rw [readSegment_field hname hrest hplain] at h
    obtain ⟨rfl, htext, hposition⟩ := readSeparator_eq_ok_iff.mp h
    simp only at htext hposition
    refine ⟨⟨hname', trivial⟩, ?_, ?_, ?_⟩
    · simp [Segment.field, Segment.chars, Clause.chars, htext]
    · simp [Segment.field, Segment.isFilter, Clause.isFilter]
    · intro d hd
      rw [hposition d hd]
      simp [Segment.field, Segment.chars, Clause.chars]

theorem Reads.readSegment_eq {c : Cursor} {s : Segment} {next : Option Cursor}
    (h : Reads c s next) : readSegment c = .ok (s, next) := by
  obtain ⟨position, cs⟩ := c
  obtain ⟨name, clause⟩ := s
  obtain ⟨⟨hname, hclause⟩, htext, hlast, hposition⟩ := h
  simp only at htext hname hclause hposition
  subst htext
  cases clause with
  | bare =>
    have hplain : ∀ text, behind next ≠ '[' :: text := by
      cases next <;> simp [behind]
    simp only [Segment.chars, Clause.chars, List.append_nil] at hposition ⊢
    rw [readSegment_field hname (stops_behind next) hplain]
    refine readSeparator_eq_ok_iff.mpr ⟨?_, rfl, hposition⟩
    rw [String.ofList_toList]
    rfl
  | key token =>
    obtain ⟨hne, hfree, hoperator⟩ := hclause
    have hne' : token.toList ≠ [] := by simpa using hne
    simp only [Segment.chars, Clause.chars, List.append_assoc, List.cons_append, List.nil_append]
    rw [readSegment_clause hname, readClause_key hne' hfree hoperator]
    refine readSeparator_eq_ok_iff.mpr ⟨?_, rfl, ?_⟩
    · rw [String.ofList_toList, String.ofList_toList]
      rfl
    · intro d hd
      have hlength := byteLength_key name token
      rw [Segment.key] at hlength
      rw [hposition d hd, hlength]
      simp only
      omega
  | filter field value result =>
    obtain ⟨hfield, hvalue, hfirst, hne, hresult⟩ := hclause
    have hnext : next = none := hlast rfl
    subst hnext
    have hne' : result.toList ≠ [] := by simpa using hne
    have hbody := readClause_filter hfield hvalue hfirst name.toList ('.' :: result.toList)
      (position + byteLength name.toList)
    simp only [operator, List.append_assoc, List.cons_append, List.nil_append] at hbody
    simp only [Segment.chars, Clause.chars, behind, List.append_assoc, List.cons_append,
      List.nil_append, List.append_nil]
    rw [readSegment_clause hname, hbody]
    refine readResult_eq_ok_iff.mpr ⟨rfl, result.toList, hne', hresult, rfl, ?_⟩
    simp only [String.ofList_toList]
    rfl

theorem readSegments_eq (c : Cursor) :
    readSegments c =
      match readSegment c with
      | .error e => .error e
      | .ok (s, none) => .ok [s]
      | .ok (s, some d) => (readSegments d).map (s :: ·) := by
  rw [readSegments]
  split <;> simp_all

/-- The segments that are read make a path, and their written form is the text. -/
theorem wellFormed_of_readSegments {c : Cursor} {segments : List Segment}
    (h : readSegments c = .ok segments) : WellFormed segments ∧ charsOf segments = c.rest := by
  fun_induction readSegments c generalizing segments with
  | case1 c e he => simp at h
  | case2 c s hs =>
    simp only [Except.ok.injEq] at h
    subst h
    obtain ⟨hwell, htext, _, _⟩ := reads_of_readSegment hs
    refine ⟨wellFormed_singleton.mpr hwell, ?_⟩
    rw [htext, behind, List.append_nil]
    rfl
  | case3 c s d hs ih =>
    have hreads := reads_of_readSegment hs
    cases hd : readSegments d with
    | error e => simp [hd, Except.map] at h
    | ok rest =>
      simp only [hd, Except.map, Except.ok.injEq] at h
      subst h
      obtain ⟨hrest, hchars⟩ := ih hd
      obtain ⟨t, more, rfl⟩ := List.exists_cons_of_ne_nil hrest.nonempty
      have hfree := hreads.isFilter_eq_false
      refine ⟨wellFormed_cons_cons.mpr ⟨hreads.wellFormed, hfree, hrest⟩, ?_⟩
      rw [hreads.text, behind, ← hchars]
      rfl

theorem readSegments_charsOf {segments : List Segment} (h : WellFormed segments)
    (position : Nat) : readSegments ⟨position, charsOf segments⟩ = .ok segments := by
  induction segments generalizing position with
  | nil => exact absurd rfl h.nonempty
  | cons s rest ih =>
    cases rest with
    | nil =>
      have hreads : Reads ⟨position, charsOf [s]⟩ s none := by
        refine ⟨wellFormed_singleton.mp h, ?_, fun _ => rfl, by simp⟩
        rw [behind, List.append_nil]
        rfl
      rw [readSegments_eq, hreads.readSegment_eq]
    | cons t more =>
      obtain ⟨hwell, hfilter, hrest⟩ := wellFormed_cons_cons.mp h
      let next : Cursor := ⟨position + byteLength s.chars + 1, charsOf (t :: more)⟩
      have hreads : Reads ⟨position, charsOf (s :: t :: more)⟩ s (some next) := by
        refine ⟨hwell, rfl, ?_, ?_⟩
        · intro hf
          rw [hfilter] at hf
          exact absurd hf (by decide)
        · intro d hd
          rw [← Option.some.inj hd]
      rw [readSegments_eq, hreads.readSegment_eq]
      simp only [next, ih hrest, Except.map]

theorem parse_eq_ok {text : String} {p : Path} (h : parse text = .ok p) :
    WellFormed p.segments ∧ p.render = text := by
  unfold parse at h
  cases hs : readSegments (.start text.toList) with
  | error e => simp [hs, Except.map] at h
  | ok segments =>
    simp only [hs, Except.map, Except.ok.injEq] at h
    subst h
    obtain ⟨hwell, hchars⟩ := wellFormed_of_readSegments hs
    refine ⟨hwell, ?_⟩
    rw [render, chars, hchars]
    exact String.ofList_toList

/-- A path that can be written is read back from its written form. -/
theorem parse_render {segments : List Segment} (h : WellFormed segments) :
    parse (Path.mk segments).render = .ok ⟨segments⟩ := by
  rw [parse, render_toList, chars, Cursor.start, readSegments_charsOf h]
  rfl

theorem parse_of_render {segments : List Segment} {text : String} (h : WellFormed segments)
    (htext : (Path.mk segments).render = text) : parse text = .ok ⟨segments⟩ := by
  rw [← htext]
  exact parse_render h

/-- A text is accepted exactly when it is the written form of a path, and its segments are those. -/
theorem parse_eq_ok_iff (text : String) (segments : List Segment) :
    parse text = .ok ⟨segments⟩ ↔ WellFormed segments ∧ (Path.mk segments).render = text := by
  constructor
  · intro h
    exact parse_eq_ok h
  · intro ⟨hwell, hrender⟩
    rw [← hrender]
    exact parse_render hwell

end ObjectPath.Path
