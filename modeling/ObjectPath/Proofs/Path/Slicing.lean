import ObjectPath.Proofs.Path.Parsing

/-!
Reading a path by byte offsets. This reader keeps the whole text and an offset, and cuts each part
that it looks at out of the text. It never cuts inside of a character, and it reads what the reader
of characters reads.
-/
namespace ObjectPath

namespace Text

/-- The text before a byte offset and the text behind it; none for an offset in a character. -/
def cut? : List Char → Nat → Option (List Char × List Char)
  | cs, 0 => some ([], cs)
  | [], _ + 1 => none
  | c :: cs, n + 1 =>
    if c.utf8Size ≤ n + 1 then
      (cut? cs (n + 1 - c.utf8Size)).map fun (before, after) => (c :: before, after)
    else none

theorem cut?_append (before after : List Char) :
    cut? (before ++ after) (byteLength before) = some (before, after) := by
  induction before with
  | nil => cases after <;> rfl
  | cons c before ih =>
    have hpos := c.utf8Size_pos
    obtain ⟨n, hn⟩ : ∃ n, byteLength (c :: before) = n + 1 :=
      ⟨c.utf8Size - 1 + byteLength before, by simp only [byteLength_cons]; omega⟩
    have hle : c.utf8Size ≤ n + 1 := by
      rw [← hn, byteLength_cons]
      omega
    have hrest : n + 1 - c.utf8Size = byteLength before := by
      rw [← hn, byteLength_cons]
      omega
    rw [hn, List.cons_append, cut?, if_pos hle, hrest, ih]
    rfl

theorem cut?_eq_some_iff {cs before after : List Char} {n : Nat} :
    cut? cs n = some (before, after) ↔ cs = before ++ after ∧ byteLength before = n := by
  constructor
  · intro h
    fun_induction cut? cs n generalizing before with
    | case1 cs =>
      obtain ⟨rfl, rfl⟩ := Prod.mk.inj (Option.some.inj h)
      exact ⟨rfl, rfl⟩
    | case2 n => simp at h
    | case3 n c cs hle ih =>
      obtain ⟨⟨front, back⟩, hcut, heq⟩ := Option.map_eq_some_iff.mp h
      obtain ⟨rfl, rfl⟩ := Prod.mk.inj heq
      obtain ⟨rfl, hlength⟩ := ih hcut
      refine ⟨rfl, ?_⟩
      rw [byteLength_cons]
      omega
    | case4 n c cs hle => simp at h
  · rintro ⟨rfl, rfl⟩
    exact cut?_append before after

theorem byteLength_toList (s : String) : byteLength s.toList = s.utf8ByteSize := by
  have hchars (cs : List Char) : byteLength cs = (String.ofList cs).utf8ByteSize := by
    induction cs with
    | nil => simp
    | cons c cs ih => rw [byteLength_cons, ih, String.ofList_cons]; simp
  rw [hchars, String.ofList_toList]

/-- A text can be cut at its character boundaries. -/
theorem exists_cut?_iff (text : String) (n : Nat) :
    (∃ parts, cut? text.toList n = some parts) ↔ String.Pos.Raw.IsValid text ⟨n⟩ := by
  rw [String.Pos.Raw.isValid_iff_exists_append]
  constructor
  · rintro ⟨⟨before, after⟩, hcut⟩
    obtain ⟨htext, rfl⟩ := cut?_eq_some_iff.mp hcut
    refine ⟨String.ofList before, String.ofList after, ?_, ?_⟩
    · rw [← String.toList_inj, htext]
      simp
    · have hlength := byteLength_toList (String.ofList before)
      rw [String.toList_ofList] at hlength
      rw [hlength]
      rfl
  · rintro ⟨before, after, rfl, hn⟩
    have hlength : n = byteLength before.toList := by
      rw [byteLength_toList]
      exact congrArg String.Pos.Raw.byteIdx hn
    refine ⟨(before.toList, after.toList), cut?_eq_some_iff.mpr ⟨?_, hlength.symm⟩⟩
    rw [String.toList_append]

def from? (text : List Char) (n : Nat) : Option (List Char) := (cut? text n).map Prod.snd

def between? (text : List Char) (m n : Nat) : Option (List Char) :=
  if m ≤ n then (from? text m).bind fun rest => (cut? rest (n - m)).map Prod.fst else none

variable {text part rest : List Char} {n : Nat}

theorem from?_zero (text : List Char) : from? text 0 = some text := by
  cases text <;> rfl

theorem exists_of_from? (h : from? text n = some rest) :
    ∃ before, text = before ++ rest ∧ byteLength before = n := by
  obtain ⟨⟨before, after⟩, hcut, rfl⟩ := Option.map_eq_some_iff.mp h
  exact ⟨before, cut?_eq_some_iff.mp hcut⟩

theorem from?_add (h : from? text n = some (part ++ rest)) :
    from? text (n + byteLength part) = some rest := by
  obtain ⟨before, rfl, rfl⟩ := exists_of_from? h
  rw [from?, ← byteLength_append, ← List.append_assoc, cut?_append]
  rfl

theorem between?_add (h : from? text n = some (part ++ rest)) :
    between? text n (n + byteLength part) = some part := by
  rw [between?, if_pos (Nat.le_add_right n _), h, Nat.add_sub_cancel_left]
  simp [cut?_append]

theorem le_of_from? (h : from? text n = some rest) : n + byteLength rest = byteLength text := by
  obtain ⟨before, rfl, rfl⟩ := exists_of_from? h
  rw [byteLength_append]

end Text

namespace Path

open ObjectPath.Text

/-- A segment and the offset of the next one; none for a part that cannot be cut out. -/
abbrev OffsetStep := Option (Except SyntaxError (Segment × Option Nat))

def nameEnd? (text : List Char) (n : Nat) : Option Nat :=
  match _h : from? text n with
  | none => none
  | some [] => some n
  | some (c :: _) => if isNameChar c then nameEnd? text (n + c.utf8Size) else some n
termination_by byteLength text - n
decreasing_by
  have hpos := c.utf8Size_pos
  have hlength := le_of_from? _h
  rw [byteLength_cons] at hlength
  omega

def separator? (text : List Char) (s : Segment) (n : Nat) : OffsetStep := do
  match ← from? text n with
  | [] => return .ok (s, none)
  | c :: _ =>
    if s.isFilter then return .error .trailingAfterFilter
    else if c = '.' then return .ok (s, some (n + 1))
    else return .error (.unexpected c n)

def result? (text : List Char) (name field value : List Char) (n : Nat) : OffsetStep := do
  match ← from? text n with
  | '.' :: _ =>
    let stop ← nameEnd? text (n + 1)
    let result ← between? text (n + 1) stop
    if result.isEmpty then return .error .missingResult
    else
      separator? text (.filter (String.ofList name) (String.ofList field) (String.ofList value)
        (String.ofList result)) stop
  | _ => return .error .missingResult

def clause? (text : List Char) (name : List Char) (opening : Nat) : OffsetStep := do
  let start := opening + 1
  let rest ← from? text start
  if ']' ∈ rest then
    let close := start + byteLength (rest.takeWhile (· != ']'))
    let body ← between? text start close
    if '[' ∈ body then
      return .error (.unexpected '[' (start + byteLength (body.takeWhile (· != '['))))
    else
      match splitOperator body with
      | some (field, value) =>
        if isBlank field || isBlank value then return .error .emptyOperand
        else result? text name field value (close + 1)
      | none =>
        if body.isEmpty then return .error .emptyKey
        else separator? text (.key (String.ofList name) (String.ofList body)) (close + 1)
  else return .error (.unclosedBracket opening)

def segment? (text : List Char) (start : Nat) : OffsetStep := do
  let stop ← nameEnd? text start
  let name ← between? text start stop
  match ← from? text stop with
  | '[' :: _ => clause? text name stop
  | ']' :: _ => return .error (.unexpected ']' stop)
  | _ => separator? text (.field (String.ofList name)) stop

def Step.offset (step : Step) : Segment × Option Nat := (step.1, step.2.map Cursor.position)

theorem nameEnd?_eq {text name rest : List Char} (hname : IsName name) (hrest : Stops rest) {n : Nat}
    (h : from? text n = some (name ++ rest)) : nameEnd? text n = some (n + byteLength name) := by
  induction name generalizing n with
  | nil =>
    rw [List.nil_append] at h
    rw [nameEnd?]
    split
    · rename_i hnone
      rw [hnone] at h
      simp at h
    · rfl
    · rename_i c tail hsome
      obtain rfl := Option.some.inj (h.symm.trans hsome)
      have hstop : isNameChar c = false := hrest c rfl
      rw [hstop]
      rfl
  | cons c name ih =>
    have hall := isName_iff.mp hname
    have hc : isNameChar c = true := hall c List.mem_cons_self
    have hname' : IsName name := isName_iff.mpr fun d hd => hall d (List.mem_cons_of_mem c hd)
    have hnext : from? text (n + c.utf8Size) = some (name ++ rest) := by
      have hstep : from? text (n + byteLength [c]) = some (name ++ rest) := from?_add h
      simpa using hstep
    rw [nameEnd?]
    split
    · rename_i hnone
      rw [hnone] at h
      simp at h
    · rename_i hnil
      rw [hnil] at h
      simp at h
    · rename_i d tail hsome
      have hd : c = d := (List.cons.inj (Option.some.inj (h.symm.trans hsome))).1
      rw [← hd, if_pos hc, ih hname' hnext, byteLength_cons, Nat.add_assoc]

variable {text rest : List Char} {n : Nat}

theorem from?_succ {c : Char} (hc : c.utf8Size = 1) (h : from? text n = some (c :: rest)) :
    from? text (n + 1) = some rest := by
  have hstep : from? text (n + byteLength [c]) = some rest := from?_add h
  simpa [hc] using hstep

theorem separator?_eq (h : from? text n = some rest) {s : Segment} (hs : s.isFilter = false) :
    separator? text s n = some ((readSeparator s ⟨n, rest⟩).map Step.offset) := by
  rw [separator?, h]
  cases rest with
  | nil => rfl
  | cons c tail =>
    by_cases hdot : c = '.'
    · subst hdot
      simp [hs, readSeparator, Except.map, Step.offset]
    · simp [hs, hdot, readSeparator, Except.map]

theorem result?_eq (h : from? text n = some rest) (name field value : List Char) :
    result? text name field value n =
      some ((readResult name field value rest).map Step.offset) := by
  by_cases hdot : ∃ tail, rest = '.' :: tail
  · obtain ⟨tail, rfl⟩ := hdot
    obtain ⟨result, more, rfl, hresult, hmore⟩ := exists_name tail
    have hname := from?_succ rfl h
    have hbehind := from?_add hname
    rw [readResult_dot hresult hmore, result?, h]
    simp only [Option.bind_eq_bind, Option.bind_some, nameEnd?_eq hresult hmore hname,
      between?_add hname, List.isEmpty_iff]
    by_cases hnil : result = []
    · rw [if_pos hnil, if_pos hnil]
      rfl
    · rw [if_neg hnil, if_neg hnil, separator?, hbehind]
      cases more <;> rfl
  · have hother : ∀ tail, rest ≠ '.' :: tail := fun tail htail => hdot ⟨tail, htail⟩
    rw [result?, h]
    simp only [readResult, Option.bind_eq_bind, Option.bind_some]
    rfl

theorem clause?_eq (h : from? text n = some ('[' :: rest)) (name : List Char) :
    clause? text name n = some ((readClause name n rest).map Step.offset) := by
  have hstart := from?_succ rfl h
  by_cases hclose : ']' ∈ rest
  · obtain ⟨body, tail, rfl, hbody⟩ := List.eq_append_cons_of_mem hclose
    have hbehind := from?_succ rfl (from?_add hstart)
    rw [readClause_closed hbody, clause?]
    simp only [Option.bind_eq_bind, hstart, Option.bind_some, if_pos hclose, takeWhile_bne hbody,
      between?_add hstart]
    by_cases hopen : '[' ∈ body
    · rw [if_pos hopen, if_pos hopen]
      rfl
    · rw [if_neg hopen, if_neg hopen]
      cases splitOperator body with
      | some sides =>
        obtain ⟨field, value⟩ := sides
        simp only
        cases isBlank field || isBlank value with
        | true => rfl
        | false => exact result?_eq hbehind name field value
      | none =>
        simp only
        cases body.isEmpty with
        | true => rfl
        | false => exact separator?_eq hbehind rfl
  · rw [readClause_unclosed hclose, clause?]
    simp only [Option.bind_eq_bind, hstart, Option.bind_some, if_neg hclose]
    rfl

theorem segment?_eq (h : from? text n = some rest) :
    segment? text n = some ((readSegment ⟨n, rest⟩).map Step.offset) := by
  obtain ⟨name, more, rfl, hname, hmore⟩ := exists_name rest
  have hbehind := from?_add h
  rw [segment?, nameEnd?_eq hname hmore h]
  simp only [Option.bind_eq_bind, Option.bind_some, between?_add h, hbehind]
  by_cases hopen : ∃ tail, more = '[' :: tail
  · obtain ⟨tail, rfl⟩ := hopen
    rw [readSegment_clause hname]
    exact clause?_eq hbehind name
  · have hplain : ∀ tail, more ≠ '[' :: tail := fun tail htail => hopen ⟨tail, htail⟩
    rw [readSegment_field hname hmore hplain]
    by_cases hclose : ∃ tail, more = ']' :: tail
    · obtain ⟨tail, rfl⟩ := hclose
      rfl
    · have hother : ∀ tail, more ≠ ']' :: tail := fun tail htail => hclose ⟨tail, htail⟩
      simp only
      exact separator?_eq hbehind rfl

theorem from?_next {s : Segment} {d : Cursor} (h : from? text n = some rest)
    (hread : readSegment ⟨n, rest⟩ = .ok (s, some d)) :
    n < d.position ∧ from? text d.position = some d.rest := by
  have hreads := reads_of_readSegment hread
  have htext : rest = s.chars ++ '.' :: d.rest := hreads.text
  have hposition : d.position = n + byteLength s.chars + 1 := hreads.position d rfl
  rw [htext] at h
  refine ⟨by omega, ?_⟩
  rw [hposition]
  exact from?_succ rfl (from?_add h)

theorem segment?_advances {s : Segment} {m : Nat} (h : segment? text n = some (.ok (s, some m))) :
    n < m ∧ m ≤ byteLength text := by
  cases hfrom : from? text n with
  | none =>
    have hend : nameEnd? text n = none := by
      rw [nameEnd?]
      split <;> simp_all
    rw [segment?, hend] at h
    simp at h
  | some rest =>
    rw [segment?_eq hfrom] at h
    rcases hread : readSegment ⟨n, rest⟩ with e | ⟨t, next⟩
    · simp [hread, Except.map] at h
    · simp only [hread, Except.map, Step.offset, Option.some.injEq, Except.ok.injEq,
        Prod.mk.injEq] at h
      obtain ⟨d, rfl, rfl⟩ := Option.map_eq_some_iff.mp h.2
      obtain ⟨hlt, hnext⟩ := from?_next hfrom hread
      have hlength := le_of_from? hnext
      exact ⟨hlt, by omega⟩

def segments? (text : List Char) (n : Nat) : Option (Except SyntaxError (List Segment)) :=
  match _h : segment? text n with
  | none => none
  | some (.error e) => some (.error e)
  | some (.ok (s, none)) => some (.ok [s])
  | some (.ok (s, some m)) => (segments? text m).map fun read => read.map (s :: ·)
termination_by byteLength text - n
decreasing_by
  obtain ⟨hlt, hle⟩ := segment?_advances _h
  omega

/-- Reads a complete path by offsets; none when a part of the text cannot be cut out. -/
def parseByOffsets? (text : String) : Option (Except SyntaxError Path) :=
  (segments? text.toList 0).map fun read => read.map Path.mk

theorem segments?_unfold (text : List Char) (n : Nat) :
    segments? text n =
      match segment? text n with
      | none => none
      | some (.error e) => some (.error e)
      | some (.ok (s, none)) => some (.ok [s])
      | some (.ok (s, some m)) => (segments? text m).map fun read => read.map (s :: ·) := by
  rw [segments?]
  split <;> simp_all

/-- The induction is on the segments that are read; the offset of each is a character boundary. -/
theorem segments?_eq {c : Cursor} (h : from? text c.position = some c.rest) :
    segments? text c.position = some (readSegments c) := by
  fun_induction readSegments c with
  | case1 c e he =>
    rw [segments?_unfold, segment?_eq h, he]
    rfl
  | case2 c s hs =>
    rw [segments?_unfold, segment?_eq h, hs]
    rfl
  | case3 c s d hs ih =>
    have hrest := ih (from?_next h hs).2
    rw [segments?_unfold, segment?_eq h, hs]
    simp only [Except.map, Step.offset, Option.map_some, hrest]

/-- No part that the reader looks at starts or ends inside of a character. -/
theorem parseByOffsets?_eq (text : String) : parseByOffsets? text = some (parse text) := by
  let c : Cursor := .start text.toList
  have hstart : from? text.toList c.position = some c.rest := from?_zero text.toList
  have hread : segments? text.toList 0 = some (readSegments c) := segments?_eq hstart
  rw [parseByOffsets?, hread]
  rfl

end Path

end ObjectPath
