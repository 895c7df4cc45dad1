import ObjectPath.Proofs.Resolve.Walking

/-! What the log of a resolution tells: the fields that were read on the way, and the filter. -/
namespace ObjectPath

/-- What is written down on the way: the level and the text of each record. -/
def Trail.log (t : Trail) : List (Level × String) := t.records.map fun r => (r.level, r.message)

/-- How many elements a filter kept, from its outcome; a single one stands for itself. -/
def Outcome.kept? : Outcome → Option Nat
  | .ok (some (.many vs)) => some vs.length
  | .ok _ => some 1
  | .error _ => none

namespace Filter

/-- A filter selects elements of a sequence: all that it keeps have the result field. -/
def Selects (mode : Comparison) (v : Value) (field literal result : String) (kept : Nat) : Prop :=
  ∃ elements, v.elements? = some elements ∧
    (∀ e ∈ elements, keeps mode field literal e = true → e.field? result ≠ none) ∧
    kept = elements.countP (keeps mode field literal)

theorem kept?_collapse (vs : List (Option Value)) :
    Outcome.kept? (.ok (collapse vs)) = some vs.length := by
  match vs with
  | [] => rfl
  | [some _] => rfl
  | [none] => rfl
  | _ :: _ :: _ => rfl

/-- A projection has a value for each element, unless one of them lacks the field. -/
theorem project_cases (result : String) (elements : List Value) :
    ((∀ e ∈ elements, e.field? result ≠ none) ∧
      ∃ vs, project result elements = .ok vs ∧ vs.length = elements.length) ∨
    ∃ e ∈ elements, e.field? result = none ∧
      project result elements = .error (.noSuchField result e.typeName) := by
  induction elements with
  | nil => exact .inl ⟨by simp, [], rfl, rfl⟩
  | cons e es ih =>
    rw [project]
    cases hfield : e.field? result with
    | none => exact .inr ⟨e, List.mem_cons_self, hfield, rfl⟩
    | some v =>
      rcases ih with ⟨hfields, vs, hvs, hlength⟩ | ⟨d, hd, hlacks, herror⟩
      · have hall : ∀ d ∈ e :: es, d.field? result ≠ none :=
          List.forall_mem_cons.mpr ⟨by simp [hfield], hfields⟩
        refine .inl ⟨hall, v.present? :: vs, by rw [hvs]; rfl, ?_⟩
        rw [List.length_cons, List.length_cons, hlength]
      · exact .inr ⟨d, List.mem_cons_of_mem e hd, hlacks, by rw [herror]; rfl⟩

variable {mode : Comparison} {v : Value} {field literal result : String}

/-- A selection is recorded with the number of elements that its outcome tells. -/
theorem Selects.filterElements_eq {kept : Nat} (h : Selects mode v field literal result kept) :
    ∃ o, Outcome.kept? o = some kept ∧
      filterElements mode v field literal result = ⟨[.filtered field literal kept], o⟩ := by
  obtain ⟨elements, helements, hfields, rfl⟩ := h
  simp only [filterElements, helements]
  rcases project_cases result (elements.filter (keeps mode field literal)) with
    ⟨-, vs, hvs, hlength⟩ | ⟨e, he, hlacks, -⟩
  · rw [hvs, List.countP_eq_length_filter, ← hlength]
    exact ⟨.ok (collapse vs), kept?_collapse vs, rfl⟩
  · obtain ⟨hmem, hkeeps⟩ := List.mem_filter.mp he
    exact absurd hlacks (hfields e hmem hkeeps)

/-- A filter that selects nothing fails without a record. -/
theorem selects_or_silent (mode : Comparison) (v : Value) (field literal result : String) :
    (∃ kept, Selects mode v field literal result kept) ∨
      ∃ f, filterElements mode v field literal result = .failed f := by
  cases helements : v.elements? with
  | none =>
    right
    simp only [filterElements, helements]
    exact ⟨_, rfl⟩
  | some elements =>
    rcases project_cases result (elements.filter (keeps mode field literal)) with
      ⟨hfields, -⟩ | ⟨e, -, -, herror⟩
    · left
      refine ⟨_, elements, helements, ?_, rfl⟩
      intro e he hkeeps
      exact hfields e (List.mem_filter.mpr ⟨he, hkeeps⟩)
    · right
      simp only [filterElements, helements, herror]
      exact ⟨_, rfl⟩

end Filter

namespace Path

/--
The first fields that a path reads, with the types of the values they are read on: each is read on
the value that the segments in front of it lead to.
-/
def ReadsFirst (mode : Comparison) (root : Value) (p : Path) (k : Nat)
    (reads : List (String × String)) : Prop :=
  reads.length = k ∧ ∀ i < k, ∃ s v, p.segments[i]? = some s ∧
    resolve mode root ⟨p.segments.take i⟩ = .ok (some (.one v)) ∧
    reads[i]? = some (s.name, v.typeName)

namespace ReadsFirst

variable {mode : Comparison} {root u : Value} {k : Nat} {reads : List (String × String)}

theorem nil (p : Path) : p.ReadsFirst mode root 0 [] :=
  ⟨rfl, fun i hi => absurd hi (Nat.not_lt_zero i)⟩

theorem cons {s : Segment} {segments : List Segment} (hroot : root.isAbsent = false)
    (hs : s.Leads root u) (h : ReadsFirst mode u ⟨segments⟩ k reads) :
    ReadsFirst mode root ⟨s :: segments⟩ (k + 1) ((s.name, root.typeName) :: reads) := by
  obtain ⟨hlength, hreads⟩ := h
  refine ⟨by rw [List.length_cons, hlength], ?_⟩
  intro i hi
  cases i with
  | zero => exact ⟨s, root, rfl, resolve_nil hroot mode, rfl⟩
  | succ i =>
    obtain ⟨t, v, ht, hv, hread⟩ := hreads i (by omega)
    exact ⟨t, v, ht, (hs.resolve_eq hroot mode _).trans hv, hread⟩

theorem concat {front rest : List Segment} {s : Segment} {v : Value}
    (h : ReadsFirst mode root ⟨front ++ s :: rest⟩ front.length reads)
    (hfront : resolve mode root ⟨front⟩ = .ok (some (.one v))) :
    ReadsFirst mode root ⟨front ++ s :: rest⟩ (front.length + 1)
      (reads ++ [(s.name, v.typeName)]) := by
  obtain ⟨hlength, hreads⟩ := h
  refine ⟨by rw [List.length_append, hlength, List.length_singleton], ?_⟩
  intro i hi
  rcases Nat.lt_succ_iff_lt_or_eq.mp hi with hlt | rfl
  · obtain ⟨t, w, ht, hw, hread⟩ := hreads i hlt
    exact ⟨t, w, ht, hw, by rw [List.getElem?_append_left (by omega), hread]⟩
  · refine ⟨s, v, by simp, ?_, by rw [← hlength, List.getElem?_concat_length]⟩
    rw [List.take_left]
    exact hfront

/-- A path, the root and a number of fields decide what is read. -/
theorem unique {p : Path} {reads' : List (String × String)} (h : p.ReadsFirst mode root k reads)
    (h' : p.ReadsFirst mode root k reads') : reads = reads' := by
  obtain ⟨hlength, hreads⟩ := h
  obtain ⟨hlength', hreads'⟩ := h'
  apply List.ext_getElem?
  intro i
  by_cases hi : i < k
  · obtain ⟨s, v, hs, hv, hread⟩ := hreads i hi
    obtain ⟨s', v', hs', hv', hread'⟩ := hreads' i hi
    obtain rfl : s = s' := Option.some.inj (hs.symm.trans hs')
    obtain rfl : v = v' := by simpa using hv.symm.trans hv'
    rw [hread, hread']
  · rw [List.getElem?_eq_none (by omega), List.getElem?_eq_none (by omega)]

end ReadsFirst

def readRecords (reads : List (String × String)) : List Record :=
  reads.map fun (name, typeName) => .read name typeName

/-- Behind segments that lead to a value the walk goes on from there, with a record for each. -/
theorem walk_append {mode : Comparison} {front : List Segment}
    (hfree : ∀ s ∈ front, s.isFilter = false) {root v : Value}
    (hfront : resolve mode root ⟨front⟩ = .ok (some (.one v))) (back : List Segment) :
    ∃ reads, ReadsFirst mode root ⟨front ++ back⟩ front.length reads ∧
      walk mode root (front ++ back) = .behind (readRecords reads) (walk mode v back) := by
  have hroot : root.isAbsent = false := isAbsent_of_resolve hfront (by simp)
  induction front generalizing root with
  | nil =>
    obtain rfl : root = v := by simpa [resolve_nil hroot] using hfront
    exact ⟨[], .nil _, rfl⟩
  | cons s front ih =>
    obtain ⟨hs, hfree⟩ := List.forall_mem_cons.mp hfree
    obtain ⟨u, hu⟩ := exists_leads hs hfront
    obtain ⟨reads, hreads, hwalk⟩ := ih hfree (hu.resolve_eq hroot mode front ▸ hfront) hu.1
    refine ⟨(s.name, root.typeName) :: reads, hreads.cons hroot hu, ?_⟩
    rw [List.cons_append, hu.walk_eq hroot, hwalk]
    rfl

/--
A resolution whose records are that of the path's text, one for each of the first fields, and those
of a trail that it shares the outcome with.
-/
def Recorded (mode : Comparison) (root : Value) (text : String) (p : Path) (k : Nat)
    (t : Trail) : Prop :=
  ∃ reads, p.ReadsFirst mode root k reads ∧
    resolveTrail mode root text = .after (.parsed text p.length) (.behind (readRecords reads) t)

/-- A segment is reached when those in front of it lead to a single value. -/
structure Reaches (mode : Comparison) (root : Value) (p : Path) (front : List Segment)
    (s : Segment) (rest : List Segment) (v : Value) : Prop where
  split : p.segments = front ++ s :: rest
  found : resolve mode root ⟨front⟩ = .ok (some (.one v))

section Recording

variable {mode : Comparison} {root v : Value} {text : String} {p : Path} {front : List Segment}
  {s : Segment} {rest : List Segment}

theorem recorded_of_trail (hroot : root.isAbsent = false) (hp : parse text = .ok p) {k : Nat}
    {reads : List (String × String)} (hreads : p.ReadsFirst mode root k reads) {t : Trail}
    (ht : p.trail mode root = .behind (readRecords reads) t) :
    p.Recorded mode root text k t := by
  refine ⟨reads, hreads, ?_⟩
  simp [resolveTrail, hroot, readAndTrail, hp, ht]

namespace Reaches

theorem isAbsent_eq_false (h : p.Reaches mode root front s rest v) : v.isAbsent = false :=
  isPresent_of_resolve h.found

theorem isFilter_of_mem (hp : parse text = .ok p) (h : p.Reaches mode root front s rest v) :
    ∀ t ∈ front, t.isFilter = false :=
  (h.split ▸ (parse_eq_ok hp).1).isFilter_of_mem_front (List.cons_ne_nil s rest)

/-- A segment that has no field on the value it is reached with is not recorded. -/
theorem recorded_missing (hroot : root.isAbsent = false) (hp : parse text = .ok p)
    (h : p.Reaches mode root front s rest v) (hfield : v.field? s.name = none) :
    p.Recorded mode root text front.length (.failed (s.missing rest v.typeName)) := by
  obtain ⟨reads, hreads, hwalk⟩ := walk_append (h.isFilter_of_mem hp) h.found (s :: rest)
  rw [walk_missing h.isAbsent_eq_false hfield, ← h.split] at hwalk
  rw [← h.split] at hreads
  exact recorded_of_trail hroot hp hreads hwalk

/-- A segment that is read is recorded, and so are those in front of it. -/
theorem recorded_read (hroot : root.isAbsent = false) (hp : parse text = .ok p)
    (h : p.Reaches mode root front s rest v) {t : Trail}
    (ht : walk mode v (s :: rest) = .behind [.read s.name v.typeName] t) :
    p.Recorded mode root text (front.length + 1) t := by
  obtain ⟨reads, hreads, hwalk⟩ := walk_append (h.isFilter_of_mem hp) h.found (s :: rest)
  have hreads := hreads.concat h.found
  rw [← h.split] at hwalk hreads
  refine recorded_of_trail hroot hp hreads ?_
  rw [trail, hwalk, ht, Trail.behind_behind]
  simp [readRecords]

/-- Behind a filter there is no segment, so all of them are read. -/
theorem length_of_filter (hp : parse text = .ok p) (h : p.Reaches mode root front s rest v)
    (hs : s.isFilter = true) : p.length = front.length + 1 := by
  have hrest := (parse_eq_ok hp).1.filterLast front s rest h.split hs
  rw [length, h.split, hrest, List.length_append, List.length_singleton]

end Reaches

/-- A filter is reached, and selects elements of a value that is there. -/
def Selects (mode : Comparison) (root : Value) (p : Path) (field literal : String)
    (kept : Nat) : Prop :=
  ∃ front s rest v w result, p.Reaches mode root front s rest v ∧
    s.Filters v w field literal result ∧ Filter.Selects mode w field literal result kept

theorem Selects.recorded (hroot : root.isAbsent = false) (hp : parse text = .ok p)
    {field literal : String} {kept : Nat} (h : p.Selects mode root field literal kept) :
    ∃ o, Outcome.kept? o = some kept ∧
      p.Recorded mode root text p.length ⟨[.filtered field literal kept], o⟩ := by
  obtain ⟨front, s, rest, v, w, result, hreaches, hfilters, hselects⟩ := h
  obtain ⟨o, ho, heq⟩ := hselects.filterElements_eq
  have hwalk := hfilters.walk_eq hreaches.isAbsent_eq_false mode rest
  rw [heq] at hwalk
  refine ⟨o, ho, ?_⟩
  rw [hreaches.length_of_filter hp hfilters.isFilter_eq_true]
  exact hreaches.recorded_read hroot hp hwalk

/-- A way that no segment ends early and no filter selects on is recorded up to its last field. -/
theorem recorded_to_end (hroot : root.isAbsent = false) (hp : parse text = .ok p)
    (hgoes : ∀ front s rest v, p.Reaches mode root front s rest v →
      v.field? s.name ≠ none ∧ ∀ o, ¬ s.Stops v o)
    (hnone : ∀ field literal kept, ¬ p.Selects mode root field literal kept) :
    ∃ o, p.Recorded mode root text p.length ⟨[], o⟩ := by
  rcases cases_of_segments mode p.segments hroot with
    ⟨v, hfree, hv⟩ | ⟨front, s, rest, v, hsplit, hfront, hends⟩
  · obtain ⟨reads, hreads, hwalk⟩ := walk_append hfree hv []
    rw [List.append_nil] at hreads hwalk
    have hpresent : v.isAbsent = false := isPresent_of_resolve hv
    refine ⟨.ok (some (.one v)), recorded_of_trail hroot hp hreads ?_⟩
    rw [trail, hwalk]
    simp [walk, hpresent, Trail.found]
  · have hreaches : p.Reaches mode root front s rest v := ⟨hsplit, hfront⟩
    obtain ⟨hfield, hstops⟩ := hgoes front s rest v hreaches
    rcases hends with hmissing | ⟨o, ho⟩ | ⟨w, field, literal, result, hfilters⟩
    · exact absurd hmissing hfield
    · exact absurd ho (hstops o)
    · rcases Filter.selects_or_silent mode w field literal result with ⟨kept, hselects⟩ | ⟨f, hf⟩
      · have hselected : p.Selects mode root field literal kept :=
          ⟨front, s, rest, v, w, result, hreaches, hfilters, hselects⟩
        exact absurd hselected (hnone field literal kept)
      · have hwalk := hfilters.walk_eq hreaches.isAbsent_eq_false mode rest
        rw [hf] at hwalk
        refine ⟨.error f, ?_⟩
        rw [hreaches.length_of_filter hp hfilters.isFilter_eq_true]
        exact hreaches.recorded_read hroot hp hwalk

/-- The log tells the text of the path, the first fields that are read, and what comes last. -/
def Logs (mode : Comparison) (root : Value) (text : String) (p : Path) (k : Nat)
    (last : List (Level × String)) : Prop :=
  ∃ reads, p.ReadsFirst mode root k reads ∧
    (resolveTrail mode root text).log =
      (.trace, "parsed " ++ Text.quote text ++ " into " ++ p.length.repr ++ " segment(s)") ::
        reads.map (fun (name, typeName) => (.trace, "read `" ++ name ++ "` on " ++ typeName)) ++
          last

theorem Recorded.logs {k : Nat} {t : Trail} (h : p.Recorded mode root text k t) :
    ObjectPath.resolve mode root text = t.outcome ∧ p.Logs mode root text k t.log := by
  obtain ⟨reads, hreads, htrail⟩ := h
  constructor
  · rw [ObjectPath.resolve, htrail]
    rfl
  · refine ⟨reads, hreads, ?_⟩
    rw [htrail]
    simp [Trail.log, Trail.after, Trail.behind, readRecords, Record.level, Record.message,
      Function.comp_def]

/-- The whole log, where the text has nothing to escape and the fields that are read are known. -/
theorem Logs.eq_of_visible {k : Nat} {last : List (Level × String)}
    (h : p.Logs mode root text k last) (htext : ∀ c ∈ text.toList, Text.isVisible c = true)
    {reads : List (String × String)} (hreads : p.ReadsFirst mode root k reads) :
    (resolveTrail mode root text).log =
      (.trace, "parsed \"" ++ text ++ "\" into " ++ p.length.repr ++ " segment(s)") ::
        reads.map (fun (name, typeName) => (.trace, "read `" ++ name ++ "` on " ++ typeName)) ++
          last := by
  obtain ⟨reads', hreads', hlog⟩ := h
  have hline :
      "parsed " ++ ("\"" ++ text ++ "\"") ++ " into " = "parsed \"" ++ text ++ "\" into " := by
    rw [← String.toList_inj]
    simp
  rw [hlog, hreads'.unique hreads, Text.quote_of_visible htext, hline]

end Recording

end Path

/--
The log of a resolution. Nothing is written down for an absent root or a malformed path. Else there
is a line for the path and one for each field that is read, in order: for those in front of a field
that does not exist, for those up to where the way stops, and for all in every other case. A filter
that selects elements adds a line with their number.
-/
theorem resolve_logs (mode : Comparison) (root : Value) (text : String) :
    (root.isAbsent = true → (resolveTrail mode root text).log = []) ∧
    (∀ e, Path.parse text = .error e → (resolveTrail mode root text).log = []) ∧
    ∀ p, root.isAbsent = false → Path.parse text = .ok p →
      (∀ front s rest v, p.Reaches mode root front s rest v → v.field? s.name = none →
        resolve mode root text = .error (s.missing rest v.typeName) ∧
          p.Logs mode root text front.length []) ∧
      (∀ front s rest v o, p.Reaches mode root front s rest v → s.Stops v o →
        resolve mode root text = o ∧ p.Logs mode root text (front.length + 1) []) ∧
      (∀ field literal kept, p.Selects mode root field literal kept →
        (resolve mode root text).kept? = some kept ∧
          p.Logs mode root text p.length [(.debug, "filter " ++ field ++ "==" ++ literal ++
            " matched " ++ kept.repr ++ " element(s)")]) ∧
      ((∀ front s rest v, p.Reaches mode root front s rest v →
          v.field? s.name ≠ none ∧ ∀ o, ¬ s.Stops v o) →
        (∀ field literal kept, ¬ p.Selects mode root field literal kept) →
          p.Logs mode root text p.length []) := by
  refine ⟨?_, ?_, ?_⟩
  · intro hroot
    simp [resolveTrail, hroot, Trail.nothing, Trail.log]
  · intro e he
    cases hroot : root.isAbsent <;>
      simp [resolveTrail, hroot, readAndTrail, he, Trail.nothing, Trail.failed, Trail.log]
  · intro p hroot hp
    refine ⟨?_, ?_, ?_, ?_⟩
    · intro front s rest v hreaches hfield
      exact (hreaches.recorded_missing hroot hp hfield).logs
    · intro front s rest v o hreaches hstops
      have hwalk := hstops.walk_eq hreaches.isAbsent_eq_false mode rest
      exact (hreaches.recorded_read hroot hp hwalk).logs
    · intro field literal kept hselects
      obtain ⟨o, ho, hrecorded⟩ := hselects.recorded hroot hp
      obtain ⟨houtcome, hlogs⟩ := hrecorded.logs
      rw [houtcome]
      exact ⟨ho, hlogs⟩
    · intro hgoes hnone
      obtain ⟨o, hrecorded⟩ := Path.recorded_to_end hroot hp hgoes hnone
      exact hrecorded.logs.2

theorem resolve_logs_absent :
    let element (v : Value) : Value := .record "Element" [("k", .text .owned "a"), ("v", v)]
    let items : List Value := [element (.boolean true), .absent, element .absent]
    let inner : Value := .record "Inner" [("xs", .sequence .vector items), ("z", .absent)]
    let root : Value := .record "Root" [("o", .wrapped .box inner)]
    let through : Path := ⟨[.field "o"]⟩
    let missing : Path := ⟨[.field "o", .field "n"]⟩
    let stopping : Path := ⟨[.field "o", .key "z" "0", .field "n"]⟩
    let selecting : Path := ⟨[.field "o", .filter "xs" "k" "a" "v"]⟩
    (resolveTrail .text .absent "o[").log = [] ∧ (resolveTrail .text root "o[").log = [] ∧
      (resolve .text root "o.n" = .error (.noSuchField "n" "Inner") ∧
        missing.Logs .text root "o.n" 1 []) ∧
      (resolve .text root "o.z[0].n" = .ok none ∧ stopping.Logs .text root "o.z[0].n" 2 []) ∧
      (selecting.Selects .text root "k" "a" 2 ∧
        selecting.Logs .text root "o.xs[k==a].v" 2
          [(.debug, "filter k==a matched 2 element(s)")] ∧
        (resolveTrail .text root "o.xs[k==a].v").log = [
          (.trace, "parsed \"o.xs[k==a].v\" into 2 segment(s)"), (.trace, "read `o` on Root"),
          (.trace, "read `xs` on Inner"), (.debug, "filter k==a matched 2 element(s)")]) ∧
      through.Logs .text root "o" 1 [] := by
  intro element items inner root through missing stopping selecting
  have hmalformed : Path.parse "o[" = .error (.unclosedBracket 1) := by
    rw [Path.parse, Path.readSegments_eq]
    rfl
  have hthrough : Path.parse "o" = .ok through := (Path.parse_eq_ok_iff _ _).mpr (by decide)
  have hmissing : Path.parse "o.n" = .ok missing := (Path.parse_eq_ok_iff _ _).mpr (by decide)
  have hstopping : Path.parse "o.z[0].n" = .ok stopping :=
    (Path.parse_eq_ok_iff _ _).mpr (by decide)
  have hselecting : Path.parse "o.xs[k==a].v" = .ok selecting :=
    (Path.parse_eq_ok_iff _ _).mpr (by decide)
  have hone : through.resolve .text root = .ok (some (.one (.wrapped .box inner))) := by
    unfold through root inner items element
    rfl
  have hselects : selecting.Selects .text root "k" "a" 2 := by
    refine ⟨[.field "o"], .filter "xs" "k" "a" "v", [], .wrapped .box inner,
      .sequence .vector items, "v", ⟨rfl, hone⟩, ⟨rfl, rfl, rfl⟩, items, rfl, ?_, rfl⟩
    simp [items, element, Filter.keeps, Value.isAbsent, Value.field?, Entries.find?]
  refine ⟨(resolve_logs .text .absent "o[").1 rfl,
    (resolve_logs .text root "o[").2.1 _ hmalformed, ?_, ?_, ?_, ?_⟩
  · obtain ⟨hmiss, -⟩ := (resolve_logs .text root "o.n").2.2 missing rfl hmissing
    exact hmiss [.field "o"] (.field "n") [] (.wrapped .box inner) ⟨rfl, hone⟩ rfl
  · obtain ⟨-, hstop, -⟩ := (resolve_logs .text root "o.z[0].n").2.2 stopping rfl hstopping
    exact hstop [.field "o"] (.key "z" "0") [.field "n"] _ _ ⟨rfl, hone⟩ (.value rfl rfl)
  · obtain ⟨-, -, hselect, -⟩ :=
      (resolve_logs .text root "o.xs[k==a].v").2.2 selecting rfl hselecting
    have hlogs := (hselect "k" "a" 2 hselects).2
    have hreads : selecting.ReadsFirst .text root 2 [("o", "Root"), ("xs", "Inner")] := by
      have hleads : (Segment.field "o").Leads root (.wrapped .box inner) :=
        ⟨rfl, .wrapped .box inner, rfl, rfl, .inl ⟨rfl, rfl⟩⟩
      have hfirst : selecting.ReadsFirst .text root 1 [("o", "Root")] := .cons rfl hleads (.nil _)
      exact hfirst.concat hone
    have hvisible : ∀ c ∈ "o.xs[k==a].v".toList, Text.isVisible c = true :=
      List.all_eq_true.mp (by decide)
    refine ⟨hselects, hlogs, ?_⟩
    rw [hlogs.eq_of_visible hvisible hreads]
    have hlength : selecting.length = 2 := rfl
    rw [hlength]
    decide
  · obtain ⟨hmiss, hstop, -, hend⟩ := (resolve_logs .text root "o").2.2 through rfl hthrough
    have hfound : resolve .text root "o" = .ok (some (.one (.wrapped .box inner))) := by
      rw [resolve_eq_resolve_path hthrough, hone]
    refine hend ?_ ?_
    · intro front s rest v hreaches
      constructor
      · intro hfield
        have herror := (hmiss front s rest v hreaches hfield).1
        rw [hfound] at herror
        cases herror
      · intro o hstops
        exact hstops.ne_found _ ((hstop front s rest v o hreaches hstops).1.symm.trans hfound)
    · rintro field literal kept ⟨front, s, rest, v, w, result, hreaches, hfilters, -⟩
      have hs : s ∈ through.segments := by simp [hreaches.split]
      obtain rfl : s = .field "o" := List.mem_singleton.mp hs
      cases hfilters.clause

end ObjectPath
