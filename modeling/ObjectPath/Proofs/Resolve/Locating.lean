import ObjectPath.Proofs.Resolve.Filtering

/-! A failure points at the step of the path that fails, and at the value on which it does. -/
namespace ObjectPath

/-- The first of some elements that a filter keeps and that lacks the result field. -/
def Filter.FirstLacking (mode : Comparison) (field literal result : String)
    (elements : List Value) (e : Value) : Prop :=
  ∃ before after, elements = before ++ e :: after ∧ keeps mode field literal e = true ∧
    e.field? result = none ∧
    ∀ d ∈ before, keeps mode field literal d = true → d.field? result ≠ none

theorem Filter.FirstLacking.cons {mode : Comparison} {field literal result : String}
    {elements : List Value} {d e : Value}
    (h : FirstLacking mode field literal result elements e)
    (hd : keeps mode field literal d = true → d.field? result ≠ none) :
    FirstLacking mode field literal result (d :: elements) e := by
  obtain ⟨before, after, heq, hkept, hlacks, hfirst⟩ := h
  refine ⟨d :: before, after, ?_, hkept, hlacks, List.forall_mem_cons.mpr ⟨hd, hfirst⟩⟩
  rw [heq, List.cons_append]

theorem Filter.exists_firstLacking {mode : Comparison} {field literal result : String}
    {elements : List Value} {f : Failure}
    (h : project result (elements.filter (keeps mode field literal)) = .error f) :
    ∃ e, FirstLacking mode field literal result elements e ∧
      f = .noSuchField result e.typeName := by
  induction elements with
  | nil => simp [project] at h
  | cons d ds ih =>
    cases hd : keeps mode field literal d with
    | false =>
      rw [List.filter_cons_of_neg (by simp [hd])] at h
      obtain ⟨e, hfirst, hf⟩ := ih h
      exact ⟨e, hfirst.cons (by simp [hd]), hf⟩
    | true =>
      rw [List.filter_cons_of_pos hd] at h
      unfold project at h
      cases hfield : d.field? result with
      | none =>
        have hf : Failure.noSuchField result d.typeName = f := by simpa [hfield] using h
        exact ⟨d, ⟨[], ds, rfl, hd, hfield, by simp⟩, hf.symm⟩
      | some v =>
        cases hds : project result (ds.filter (keeps mode field literal)) with
        | ok vs => simp [hfield, hds, Except.map] at h
        | error g =>
          have hgf : g = f := by simpa [hfield, hds, Except.map] using h
          obtain ⟨e, hfirst, hf⟩ := ih (by rw [hds, hgf])
          exact ⟨e, hfirst.cons (by simp [hfield]), hf⟩

theorem filterElements_eq_error {mode : Comparison} {v : Value} {field literal result : String}
    {f : Failure} (h : (filterElements mode v field literal result).outcome = .error f) :
    (v.elements? = none ∧ f = .notSequence v.typeName) ∨
      ∃ elements e, v.elements? = some elements ∧
        Filter.FirstLacking mode field literal result elements e ∧
        f = .noSuchField result e.typeName := by
  cases helements : v.elements? with
  | none =>
    rw [outcome_filterElements_none helements] at h
    exact .inl ⟨rfl, (Except.error.inj h).symm⟩
  | some elements =>
    rw [outcome_filterElements helements] at h
    cases hproject : Filter.project result (elements.filter (Filter.keeps mode field literal)) with
    | ok vs => simp [hproject, Except.map] at h
    | error g =>
      have hgf : g = f := by simpa [hproject, Except.map] using h
      obtain ⟨e, hfirst, hg⟩ := Filter.exists_firstLacking hproject
      exact .inr ⟨elements, e, rfl, hfirst, hgf ▸ hg⟩

/--
What a failure tells about a segment that is read on `owner`, with `rest` behind it, where the
segment's field leads to `reached`: which name or key it is that fails, and on a value of what type.
-/
def Failure.PointsAt (mode : Comparison) (owner : Value) (s : Segment) (rest : List Segment)
    (reached : Outcome) : Failure → Prop
  | noSuchStep name typeName =>
    rest ≠ [] ∧ name = s.name ∧ typeName = owner.typeName ∧ owner.field? name = none
  | noSuchField name typeName =>
    rest = [] ∧ Xor
      (name = s.name ∧ typeName = owner.typeName ∧ owner.field? name = none)
      (∃ field literal v elements e, s.clause = .filter field literal name ∧
        reached = .ok (some (.one v)) ∧ v.elements? = some elements ∧
        Filter.FirstLacking mode field literal name elements e ∧ typeName = e.typeName)
  | noSuchKey token typeName =>
    ∃ v, s.clause = .key token ∧ reached = .ok (some (.one v)) ∧ typeName = v.typeName ∧
      v.lookup token = .missing
  | notKeyed typeName =>
    ∃ token v, s.clause = .key token ∧ reached = .ok (some (.one v)) ∧ typeName = v.typeName ∧
      v.lookup token = .unsupported
  | notSequence typeName =>
    ∃ v, s.isFilter = true ∧ reached = .ok (some (.one v)) ∧ typeName = v.typeName ∧
      v.elements? = none
  | malformed _ => False

/-- A clause that fails does so on the value of its field, or the way goes on from some value. -/
theorem Failure.pointsAt_or_goesOn {mode : Comparison} {owner v : Value} {s : Segment}
    {rest : List Segment} (hfield : owner.field? s.name = some v)
    (hlast : s.isFilter = true → rest = []) {next : Value → Outcome} {f : Failure}
    (h : s.clause.outcome mode v next = .error f) :
    f.PointsAt mode owner s rest (.ok (some (.one v))) ∨
      ∃ u, ∀ next, s.clause.outcome mode v next = next u := by
  cases hclause : s.clause with
  | bare => exact .inr ⟨v, fun next => rfl⟩
  | key token =>
    simp only [hclause, Clause.outcome] at h ⊢
    cases hlookup : v.lookup token with
    | found u => exact .inr ⟨u, fun next => rfl⟩
    | missing =>
      have hf : noSuchKey token v.typeName = f := by simpa [hlookup] using h
      rw [← hf]
      exact .inl ⟨v, hclause, rfl, rfl, hlookup⟩
    | unsupported =>
      have hf : notKeyed v.typeName = f := by simpa [hlookup] using h
      rw [← hf]
      exact .inl ⟨token, v, hclause, rfl, rfl, hlookup⟩
  | filter field literal result =>
    left
    have hfilter : s.isFilter = true := by simp [Segment.isFilter, hclause, Clause.isFilter]
    simp only [hclause, Clause.outcome] at h
    rcases filterElements_eq_error h with ⟨helements, hf⟩ | ⟨elements, e, helements, hfirst, hf⟩
    · rw [hf]
      exact ⟨v, hfilter, rfl, rfl, helements⟩
    · rw [hf]
      refine ⟨hlast hfilter, .inr ⟨?_, ?_⟩⟩
      · exact ⟨field, literal, v, elements, e, hclause, rfl, helements, hfirst, rfl⟩
      · rintro ⟨hname, _, hnone⟩
        rw [hname, hfield] at hnone
        exact Option.some_ne_none v hnone

namespace Path

theorem pointsAt_or_goesOn {mode : Comparison} {root : Value} {s : Segment} {rest : List Segment}
    (hroot : root.isAbsent = false) (hlast : s.isFilter = true → rest = []) {f : Failure}
    (h : resolve mode root ⟨s :: rest⟩ = .error f) :
    f.PointsAt mode root s rest (resolve mode root ⟨[.field s.name]⟩) ∨
      ∃ u, ∀ more, resolve mode root ⟨s :: more⟩ = resolve mode u ⟨more⟩ := by
  rw [resolve_field hroot]
  simp only [resolve_cons hroot] at h ⊢
  cases hfield : root.field? s.name with
  | none =>
    left
    have hf : s.missing rest root.typeName = f := by simpa [hfield] using h
    rw [← hf, Segment.missing]
    cases rest with
    | nil => exact ⟨rfl, .inl ⟨⟨rfl, rfl, hfield⟩, by simp⟩⟩
    | cons t more => exact ⟨List.cons_ne_nil t more, rfl, rfl, hfield⟩
  | some v =>
    cases hv : v.isAbsent with
    | true => simp [hfield, hv] at h
    | false =>
      simp only [hfield, hv, Value.present?, Bool.false_eq_true, if_false, Option.map_some] at h ⊢
      rcases Failure.pointsAt_or_goesOn hfield hlast h with hpoint | ⟨u, hu⟩
      · exact .inl hpoint
      · exact .inr ⟨u, fun more => hu _⟩

/-- The induction is on the segments; those before the one that fails lead to a single value. -/
theorem exists_pointsAt {mode : Comparison} {root : Value} {segments : List Segment}
    (hlast : ∀ before s after, segments = before ++ s :: after → s.isFilter = true → after = [])
    {f : Failure} (h : resolve mode root ⟨segments⟩ = .error f) :
    ∃ front s rest v, segments = front ++ s :: rest ∧
      resolve mode root ⟨front⟩ = .ok (some (.one v)) ∧
      f.PointsAt mode v s rest (resolve mode v ⟨[.field s.name]⟩) := by
  induction segments generalizing root with
  | nil =>
    have hroot : root.isAbsent = false := isAbsent_of_resolve h (by simp)
    simp [resolve_nil hroot] at h
  | cons s rest ih =>
    have hroot : root.isAbsent = false := isAbsent_of_resolve h (by simp)
    rcases pointsAt_or_goesOn hroot (hlast [] s rest rfl) h with hpoint | ⟨u, hu⟩
    · exact ⟨[], s, rest, root, rfl, resolve_nil hroot mode, hpoint⟩
    · have hrest : ∀ before t after, rest = before ++ t :: after → t.isFilter = true →
          after = [] :=
        fun before t after heq => hlast (s :: before) t after (by rw [heq]; rfl)
      obtain ⟨front, t, after, v, heq, hfront, hpoint⟩ := ih hrest (hu rest ▸ h)
      exact ⟨s :: front, t, after, v, by rw [heq]; rfl, (hu front).trans hfront, hpoint⟩

end Path

/--
When a path fails, the segments in front of one of its segments lead to a single value, the root if
there are none, and the failure points at that segment: it names what is missing on this value, or
on what the segment's field leads to from the root.
-/
theorem resolve_error_pointsAt {text : String} {p : Path} (hp : Path.parse text = .ok p)
    {mode : Comparison} {root : Value} {f : Failure} (h : p.resolve mode root = .error f) :
    ∃ front s rest v, p.segments = front ++ s :: rest ∧
      Path.resolve mode root ⟨front⟩ = .ok (some (.one v)) ∧ (front = [] → v = root) ∧
      f.PointsAt mode v s rest (Path.resolve mode root ⟨front ++ [.field s.name]⟩) := by
  have hwell := (Path.parse_eq_ok hp).1
  obtain ⟨front, s, rest, v, heq, hfront, hpoint⟩ := Path.exists_pointsAt hwell.filterLast h
  have hfree : ∀ t ∈ front, t.isFilter = false :=
    (heq ▸ hwell).isFilter_of_mem_front (List.cons_ne_nil s rest)
  refine ⟨front, s, rest, v, heq, hfront, ?_, ?_⟩
  · rintro rfl
    have hroot : root.isAbsent = false := Path.isAbsent_of_resolve h (by simp)
    have hvalue : root = v := by simpa [Path.resolve_nil hroot] using hfront
    exact hvalue.symm
  · rw [Path.resolve_append_of_one hfree (List.cons_ne_nil _ _) hfront]
    exact hpoint

theorem resolve_error_pointsAt_element :
    let element (name : String) (fields : List (String × Value)) : Value :=
      .record name (("k", .text .owned "a") :: fields)
    let inner : Value := .record "Inner" [("xs", .sequence .vector
      [element "Full" [("v", .boolean true)], .absent, element "Bare" []])]
    let root : Value := .record "Root" [("o", .wrapped .box inner)]
    let p : Path := ⟨[.field "o", .filter "xs" "k" "a" "v"]⟩
    let f : Failure := .noSuchField "v" "Bare"
    Path.parse "o.xs[k==a].v" = .ok p ∧ p.resolve .text root = .error f ∧
      ∃ front s rest v, p.segments = front ++ s :: rest ∧
        Path.resolve .text root ⟨front⟩ = .ok (some (.one v)) ∧ (front = [] → v = root) ∧
        f.PointsAt .text v s rest (Path.resolve .text root ⟨front ++ [.field s.name]⟩) := by
  intro element inner root p f
  have hparse : Path.parse "o.xs[k==a].v" = .ok p := (Path.parse_eq_ok_iff _ _).mpr (by decide)
  have hfailed : p.resolve .text root = .error f := by
    unfold p root inner element f
    rfl
  exact ⟨hparse, hfailed, resolve_error_pointsAt hparse hfailed⟩

end ObjectPath
