import ObjectPath.Proofs.Path.Parsing

/-! Reading a path is splitting off its segments one after the other, errors included. -/
namespace ObjectPath

open ObjectPath.Text

/-- An error in a text, as one in a longer text that ends with it: its position is moved. -/
def SyntaxError.shift (bytes : Nat) : SyntaxError → SyntaxError
  | unclosedBracket position => unclosedBracket (bytes + position)
  | unexpected char position => unexpected char (bytes + position)
  | e => e

namespace Path

def Cursor.shift (bytes : Nat) (c : Cursor) : Cursor := ⟨bytes + c.position, c.rest⟩

def shiftRead (bytes : Nat) : Except SyntaxError Step → Except SyntaxError Step
  | .ok (s, next) => .ok (s, next.map (Cursor.shift bytes))
  | .error e => .error (e.shift bytes)

theorem readSeparator_shift (bytes : Nat) (s : Segment) (c : Cursor) :
    readSeparator s (c.shift bytes) = shiftRead bytes (readSeparator s c) := by
  obtain ⟨position, rest⟩ := c
  simp only [readSeparator, Cursor.shift]
  split <;> rfl

theorem readResult_shift (bytes : Nat) (name field value rest : List Char) :
    shiftRead bytes (readResult name field value rest) = readResult name field value rest := by
  unfold readResult
  split
  · simp only
    split
    · rfl
    · split <;> rfl
  · rfl

theorem readClause_shift (bytes : Nat) (name : List Char) (opening : Nat) (text : List Char) :
    readClause name (bytes + opening) text = shiftRead bytes (readClause name opening text) := by
  by_cases hclose : ']' ∈ text
  · obtain ⟨body, rest, rfl, hbody⟩ := List.eq_append_cons_of_mem hclose
    rw [readClause_closed hbody, readClause_closed hbody]
    split
    · simp only [shiftRead, SyntaxError.shift, Nat.add_assoc]
    · cases splitOperator body with
      | some operands =>
        obtain ⟨field, value⟩ := operands
        simp only
        split
        · rfl
        · rw [readResult_shift]
      | none =>
        simp only
        split
        · rfl
        · rw [← readSeparator_shift]
          simp only [Cursor.shift, Nat.add_assoc]
  · rw [readClause_unclosed hclose, readClause_unclosed hclose]
    rfl

/-- Reading does not depend on how far from the start of a text it happens. -/
theorem readSegment_shift (bytes : Nat) (c : Cursor) :
    readSegment (c.shift bytes) = shiftRead bytes (readSegment c) := by
  obtain ⟨position, cs⟩ := c
  obtain ⟨name, rest, rfl, hname, hrest⟩ := exists_name cs
  by_cases hopen : ∃ text, rest = '[' :: text
  · obtain ⟨text, rfl⟩ := hopen
    rw [Cursor.shift, readSegment_clause hname, readSegment_clause hname, ← readClause_shift,
      Nat.add_assoc]
  · have hplain : ∀ text, rest ≠ '[' :: text := fun text he => hopen ⟨text, he⟩
    rw [Cursor.shift, readSegment_field hname hrest hplain,
      readSegment_field hname hrest hplain, ← readSeparator_shift, Cursor.shift, Nat.add_assoc]

/-- A segment that is split off was read at the start of the text. -/
theorem exists_reads_of_splitFirst {text : String} {s : Segment} {rest : Option String}
    (h : splitFirst text = .ok (s, rest)) :
    ∃ next, Reads (.start text.toList) s next ∧ rest = next.map fun d => String.ofList d.rest := by
  rw [splitFirst] at h
  rcases hread : readSegment (.start text.toList) with e | ⟨t, next⟩
  · simp [hread, Except.map] at h
  · simp only [hread, Except.map, Except.ok.injEq, Prod.mk.injEq] at h
    obtain ⟨rfl, rfl⟩ := h
    exact ⟨next, reads_of_readSegment hread, rfl⟩

/-- The rest of a text stands behind the written segment and a dot. -/
theorem splitFirst_more {text rest : String} {s : Segment}
    (h : splitFirst text = .ok (s, some rest)) : text = s.render ++ "." ++ rest := by
  obtain ⟨next, hreads, hrest⟩ := exists_reads_of_splitFirst h
  obtain ⟨c, rfl, rfl⟩ := Option.map_eq_some_iff.mp hrest.symm
  have htext : text.toList = s.chars ++ '.' :: c.rest := hreads.text
  rw [← String.toList_inj, htext]
  simp

theorem splitFirst_eq_some {s : Segment} (hs : s.WellFormed) (hfree : s.isFilter = false)
    (rest : String) : splitFirst (s.render ++ "." ++ rest) = .ok (s, some rest) := by
  let next : Cursor := ⟨byteLength s.chars + 1, rest.toList⟩
  have hreads : Reads (.start (s.render ++ "." ++ rest).toList) s (some next) := by
    refine ⟨hs, ?_, ?_, ?_⟩
    · simp [Cursor.start, behind, next]
    · intro hfilter
      rw [hfree] at hfilter
      exact absurd hfilter (by decide)
    · intro d hd
      rw [← Option.some.inj hd]
      simp [Cursor.start, next]
  rw [splitFirst, hreads.readSegment_eq]
  simp only [Except.map, Option.map_some, next, String.ofList_toList]

theorem splitFirst_eq_none {s : Segment} (hs : s.WellFormed) :
    splitFirst s.render = .ok (s, none) := by
  have hreads : Reads (.start s.render.toList) s none := by
    refine ⟨hs, ?_, fun _ => rfl, by simp⟩
    simp [Cursor.start, behind]
  rw [splitFirst, hreads.readSegment_eq]
  rfl

theorem splitFirst_suffix {text rest : String} {s : Segment}
    (h : splitFirst text = .ok (s, some rest)) :
    rest.toList <:+ text.toList ∧ rest.toList.length < text.toList.length := by
  rw [splitFirst_more h]
  constructor
  · rw [String.toList_append]
    exact List.suffix_append _ _
  · simp only [String.toList_append, List.length_append, String.reduceToList, List.length_cons]
    omega

/-- The reader of segments goes on at the fragment that splitting leaves, at its place. -/
theorem readSegments_eq_splitFirst (bytes : Nat) (text : String) :
    readSegments ⟨bytes, text.toList⟩ =
      match splitFirst text with
      | .error e => .error (e.shift bytes)
      | .ok (s, none) => .ok [s]
      | .ok (s, some rest) =>
        (readSegments ⟨bytes + byteLength (s.render ++ ".").toList, rest.toList⟩).map (s :: ·) := by
  have hshift : readSegment ⟨bytes, text.toList⟩ =
      shiftRead bytes (readSegment (.start text.toList)) :=
    readSegment_shift bytes (.start text.toList)
  rw [readSegments_eq, hshift, splitFirst]
  rcases hread : readSegment (.start text.toList) with e | ⟨s, next⟩
  · rfl
  · cases next with
    | none => rfl
    | some c =>
      have hposition := (reads_of_readSegment hread).position c rfl
      have hplace : c.shift bytes = ⟨bytes + byteLength (s.render ++ ".").toList, c.rest⟩ := by
        have hdot : Char.utf8Size '.' = 1 := rfl
        simp [Cursor.shift, hposition, Cursor.start, hdot]
      simp only [shiftRead, Option.map_some, hplace, Except.map, String.toList_ofList]

/--
Splitting segments off a text again and again, each time off what the last one left, passes some
segments and comes to a fragment of the text.
-/
inductive Splits (text : String) : List Segment → String → Prop
  | start : Splits text [] text
  | next {segments : List Segment} {fragment rest : String} {s : Segment}
    (h : Splits text segments fragment) (hsplit : splitFirst fragment = .ok (s, some rest)) :
    Splits text (segments ++ [s]) rest

/-- The induction is on the rounds; the reader of the whole text passes the same fragments. -/
theorem Splits.readSegments_eq {text fragment : String} {segments : List Segment}
    (h : Splits text segments fragment) :
    ∃ front, text = front ++ fragment ∧
      readSegments (.start text.toList) =
        (readSegments ⟨byteLength front.toList, fragment.toList⟩).map (segments ++ ·) := by
  induction h with
  | start =>
    refine ⟨"", by simp, ?_⟩
    show _ = (readSegments (.start text.toList)).map fun rest => rest
    cases readSegments (.start text.toList) <;> rfl
  | @next segments fragment rest s _ hsplit ih =>
    obtain ⟨front, htext, hread⟩ := ih
    refine ⟨front ++ (s.render ++ "."), ?_, ?_⟩
    · rw [htext, splitFirst_more hsplit]
      simp only [String.append_assoc]
    · rw [hread, readSegments_eq_splitFirst, hsplit, @String.toList_append front, byteLength_append]
      simp only
      generalize readSegments _ = read
      cases read with
      | error e => rfl
      | ok more => simp [Except.map]

/-- The rounds come to an end: each leaves a shorter text. -/
theorem Splits.exists_end {text fragment : String} {segments : List Segment}
    (h : Splits text segments fragment) :
    ∃ passed final, Splits text passed final ∧ ∀ s rest, splitFirst final ≠ .ok (s, some rest) := by
  by_cases hmore : ∃ s rest, splitFirst fragment = .ok (s, some rest)
  · obtain ⟨s, rest, hsplit⟩ := hmore
    have hshorter := (splitFirst_suffix hsplit).2
    exact (h.next hsplit).exists_end
  · exact ⟨segments, fragment, h, fun s rest hsplit => hmore ⟨s, rest, hsplit⟩⟩
termination_by fragment.toList.length

/--
Splitting a text again and again comes to an end. Where the last segment is split off, the text is
the path of all segments that were; where a fragment is refused, the text is refused with the same
error, whose position then counts from the start of the text.
-/
theorem parse_iterates_splitFirst (text : String) :
    (∀ (fragment : String) (s : Segment) (rest : String),
      splitFirst fragment = .ok (s, some rest) →
        rest.toList <:+ fragment.toList ∧ rest.toList.length < fragment.toList.length) ∧
    (∃ segments fragment, Splits text segments fragment ∧
      ∀ s rest, splitFirst fragment ≠ .ok (s, some rest)) ∧
    ∀ (segments : List Segment) (fragment : String), Splits text segments fragment →
      (∀ s, splitFirst fragment = .ok (s, none) → parse text = .ok ⟨segments ++ [s]⟩) ∧
      ∃ front, text = front ++ fragment ∧
        ∀ e, splitFirst fragment = .error e →
          parse text = .error (e.shift (byteLength front.toList)) := by
  refine ⟨fun fragment s rest => splitFirst_suffix, Splits.start.exists_end, ?_⟩
  intro segments fragment h
  obtain ⟨front, htext, hread⟩ := h.readSegments_eq
  rw [readSegments_eq_splitFirst] at hread
  constructor
  · intro s hsplit
    rw [parse, hread, hsplit]
    rfl
  · refine ⟨front, htext, ?_⟩
    intro e hsplit
    rw [parse, hread, hsplit]
    rfl

theorem parse_iterates_splitFirst_offset :
    Splits "é.x]" [.field "é"] "x]" ∧ parse "é.x]" = .error (.unexpected ']' 4) := by
  have hfirst : splitFirst "é.x]" = .ok (.field "é", some "x]") := by decide
  have hrefused : splitFirst "x]" = .error (.unexpected ']' 1) := by decide
  have hsplits : Splits "é.x]" [.field "é"] "x]" := Splits.start.next hfirst
  obtain ⟨_, front, htext, herror⟩ := (parse_iterates_splitFirst "é.x]").2.2 _ _ hsplits
  refine ⟨hsplits, ?_⟩
  have hfront : front = "é." := by
    have htext' : "é." ++ "x]" = front ++ "x]" := htext
    rw [← String.toList_inj, String.toList_append, String.toList_append] at htext'
    exact String.toList_inj.mp (List.append_cancel_right htext').symm
  rw [herror _ hrefused, hfront]
  rfl

/--
Splitting looks at the text of the first segment and at the dot behind it, and at nothing else: any
text may stand behind the dot. Each segment that can be written is split off.
-/
theorem splitFirst_leading (s : Segment) :
    (∀ text rest, splitFirst text = .ok (s, some rest) →
      text = s.render ++ "." ++ rest ∧ s.isFilter = false ∧
        ∀ other, splitFirst (s.render ++ "." ++ other) = .ok (s, some other)) ∧
    (∀ text, splitFirst text = .ok (s, none) → text = s.render) ∧
    (s.WellFormed → splitFirst s.render = .ok (s, none) ∧
      (s.isFilter = false → ∀ rest, splitFirst (s.render ++ "." ++ rest) = .ok (s, some rest))) := by
  refine ⟨?_, ?_, fun hs => ⟨splitFirst_eq_none hs, splitFirst_eq_some hs⟩⟩
  · intro text rest h
    obtain ⟨next, hreads, hrest⟩ := exists_reads_of_splitFirst h
    obtain ⟨c, rfl, -⟩ := Option.map_eq_some_iff.mp hrest.symm
    have hfree := hreads.isFilter_eq_false
    exact ⟨splitFirst_more h, hfree, splitFirst_eq_some hreads.wellFormed hfree⟩
  · intro text h
    obtain ⟨next, hreads, hrest⟩ := exists_reads_of_splitFirst h
    have hnext : next = none := Option.map_eq_none_iff.mp hrest.symm
    have htext : text.toList = s.chars ++ behind next := hreads.text
    rw [hnext, behind, List.append_nil] at htext
    rw [← String.toList_inj, htext, Segment.render_toList]

/-- What stands behind the dot is not the text of a path. -/
theorem splitFirst_leading_malformed :
    splitFirst "é[k].ok" = .ok (.key "é" "k", some "ok") ∧
      splitFirst ("é[k]" ++ "." ++ "]x==[") = .ok (.key "é" "k", some "]x==[") := by
  have hfirst : splitFirst "é[k].ok" = .ok (.key "é" "k", some "ok") := by decide
  have hrender : (Segment.key "é" "k").render = "é[k]" := by decide
  have hother := ((splitFirst_leading (.key "é" "k")).1 _ _ hfirst).2.2 "]x==["
  rw [hrender] at hother
  exact ⟨hfirst, hother⟩

end Path

end ObjectPath
