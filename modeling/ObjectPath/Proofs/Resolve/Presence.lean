import ObjectPath.Proofs.Resolve.Composition

/-! What a path leads to is there: no absent value is found, and only filters find many values. -/
namespace ObjectPath

namespace Value

/-- A value inside layers, of which the first is the outermost. -/
def within (layers : List Layer) (v : Value) : Value := layers.foldr .wrapped v

theorem isAbsent_within (layers : List Layer) (v : Value) :
    (within layers v).isAbsent = v.isAbsent := by
  induction layers with
  | nil => rfl
  | cons layer layers ih => exact ih

theorem isAbsent_of_present? {v w : Value} (h : v.present? = some w) : w.isAbsent = false := by
  unfold present? at h
  split at h
  · simp at h
  · rename_i hv
    have hw : v = w := Option.some.inj h
    rw [← hw]
    exact Bool.not_eq_true _ ▸ hv

end Value

/-- A single value is there; many values are not just one, and those without a gap are there. -/
def Found.IsPresent : Found → Prop
  | one v => v.isAbsent = false
  | many vs => vs.length ≠ 1 ∧ ∀ v, some v ∈ vs → v.isAbsent = false

namespace Filter

theorem isAbsent_of_mem_project {result : String} {elements : List Value}
    {vs : List (Option Value)} (h : project result elements = .ok vs) {v : Value}
    (hv : some v ∈ vs) : v.isAbsent = false := by
  induction elements generalizing vs with
  | nil =>
    have hnil : [] = vs := Except.ok.inj h
    rw [← hnil] at hv
    exact absurd hv List.not_mem_nil
  | cons e es ih =>
    unfold project at h
    split at h
    · simp at h
    · rename_i w hw
      cases hes : project result es with
      | error f => simp [hes, Except.map] at h
      | ok ws =>
        have hcons : w.present? :: ws = vs := by simpa [hes, Except.map] using h
        rw [← hcons] at hv
        rcases List.mem_cons.mp hv with hfirst | hrest
        · exact Value.isAbsent_of_present? hfirst.symm
        · exact ih hes hrest

theorem isPresent_of_collapse {vs : List (Option Value)} {found : Found}
    (h : collapse vs = some found) (hvs : ∀ v, some v ∈ vs → v.isAbsent = false) :
    found.IsPresent := by
  unfold collapse at h
  split at h
  · rename_i v?
    obtain ⟨v, hv, rfl⟩ := Option.map_eq_some_iff.mp h
    exact hvs v (by simp [hv])
  · rename_i hmany
    have hfound : Found.many vs = found := Option.some.inj h
    rw [← hfound]
    refine ⟨?_, hvs⟩
    intro hlength
    obtain ⟨v?, hv⟩ := List.length_eq_one_iff.mp hlength
    exact hmany v? hv

theorem isPresent_of_filterElements {mode : Comparison} {v : Value}
    {field literal result : String} {found : Found}
    (h : (filterElements mode v field literal result).outcome = .ok (some found)) :
    found.IsPresent := by
  cases helements : v.elements? with
  | none =>
    rw [outcome_filterElements_none helements] at h
    simp at h
  | some elements =>
    rw [outcome_filterElements helements] at h
    cases hvs : project result (elements.filter (keeps mode field literal)) with
    | error e => simp [hvs, Except.map] at h
    | ok vs =>
      have hcollapse : collapse vs = some found := by simpa [hvs, Except.map] using h
      exact isPresent_of_collapse hcollapse fun v => isAbsent_of_mem_project hvs

end Filter

theorem Clause.isPresent_of_outcome {mode : Comparison} {v : Value} {next : Value → Outcome}
    (hnext : ∀ u found, next u = .ok (some found) → found.IsPresent) {c : Clause} {found : Found}
    (h : c.outcome mode v next = .ok (some found)) : found.IsPresent := by
  cases c with
  | bare => exact hnext v found h
  | key token =>
    simp only [outcome] at h
    cases hlookup : v.lookup token with
    | found u =>
      rw [hlookup] at h
      exact hnext u found h
    | missing => simp [hlookup] at h
    | unsupported => simp [hlookup] at h
  | filter field literal result => exact Filter.isPresent_of_filterElements h

namespace Path

/-- The induction is on the segments; each of them goes on from values that are there. -/
theorem isPresent_of_resolve {mode : Comparison} {root : Value} {segments : List Segment}
    {found : Found} (h : resolve mode root ⟨segments⟩ = .ok (some found)) : found.IsPresent := by
  induction segments generalizing root found with
  | nil =>
    have hroot : root.isAbsent = false := isAbsent_of_resolve h (by simp)
    have hfound : Found.one root = found := by simpa [resolve_nil hroot] using h
    rw [← hfound]
    exact hroot
  | cons s rest ih =>
    have hroot : root.isAbsent = false := isAbsent_of_resolve h (by simp)
    rw [resolve_cons hroot] at h
    cases hfield : root.field? s.name with
    | none => simp [hfield] at h
    | some v =>
      cases hv : v.isAbsent with
      | true => simp [hfield, hv] at h
      | false =>
        simp only [hfield, hv, Bool.false_eq_true, if_false] at h
        exact Clause.isPresent_of_outcome (fun u found => ih) h

theorem exists_filter_of_resolve {mode : Comparison} {root : Value} {segments : List Segment}
    {vs : List (Option Value)} (h : resolve mode root ⟨segments⟩ = .ok (some (.many vs))) :
    ∃ s ∈ segments, s.isFilter = true := by
  by_contra hnone
  refine resolve_ne_many ?_ mode root vs h
  intro s hs
  rw [← Bool.not_eq_true]
  intro hfilter
  exact hnone ⟨s, hs, hfilter⟩

end Path

/--
A single value that a path leads to is there. Many values come from a filter at the end of the
path, are not just one, and are there but for the gaps. So neither the empty option nor the null
document is handed out, whatever layers are around it.
-/
theorem resolve_shape {text : String} {p : Path} (hp : Path.parse text = .ok p)
    (mode : Comparison) (root : Value) :
    (∀ v, p.resolve mode root = .ok (some (.one v)) → v.isAbsent = false) ∧
    (∀ vs, p.resolve mode root = .ok (some (.many vs)) →
      (∃ s, p.segments.getLast? = some s ∧ s.isFilter = true) ∧ vs.length ≠ 1 ∧
        ∀ v, some v ∈ vs → v.isAbsent = false) ∧
    ((∀ s, p.segments.getLast? = some s → s.isFilter = false) →
      ∀ vs, p.resolve mode root ≠ .ok (some (.many vs))) ∧
    ∀ (layers : List Layer) (nothing : Value), nothing = .absent ∨ nothing = .json .null →
      p.resolve mode root ≠ .ok (some (.one (nothing.within layers))) ∧
      ∀ vs, p.resolve mode root = .ok (some (.many vs)) → some (nothing.within layers) ∉ vs := by
  have hone : ∀ v, p.resolve mode root = .ok (some (.one v)) → v.isAbsent = false :=
    fun v h => Path.isPresent_of_resolve h
  have hmany : ∀ vs, p.resolve mode root = .ok (some (.many vs)) →
      vs.length ≠ 1 ∧ ∀ v, some v ∈ vs → v.isAbsent = false :=
    fun vs h => Path.isPresent_of_resolve h
  have hlast : ∀ vs, p.resolve mode root = .ok (some (.many vs)) →
      ∃ s, p.segments.getLast? = some s ∧ s.isFilter = true := by
    intro vs h
    obtain ⟨s, hs, hfilter⟩ := Path.exists_filter_of_resolve h
    exact ⟨s, (Path.parse_eq_ok hp).1.getLast?_of_isFilter hs hfilter, hfilter⟩
  refine ⟨hone, fun vs h => ⟨hlast vs h, hmany vs h⟩, ?_, ?_⟩
  · intro hfree vs h
    obtain ⟨s, hs, hfilter⟩ := hlast vs h
    rw [hfree s hs] at hfilter
    exact Bool.noConfusion hfilter
  · intro layers nothing hnothing
    have habsent : (nothing.within layers).isAbsent = true := by
      rw [Value.isAbsent_within]
      rcases hnothing with rfl | rfl <;> rfl
    constructor
    · intro h
      rw [hone _ h] at habsent
      exact Bool.noConfusion habsent
    · intro vs h hmem
      rw [(hmany vs h).2 _ hmem] at habsent
      exact Bool.noConfusion habsent

theorem resolve_shape_gap :
    let element (v : Value) : Value := .record "Element" [("k", .text .owned "a"), ("v", v)]
    let root : Value := .record "Root" [("xs", .sequence .vector
      [element (.within [.option, .box] .absent), element (.boolean true)])]
    let p : Path := ⟨[.filter "xs" "k" "a" "v"]⟩
    Path.parse "xs[k==a].v" = .ok p ∧
      p.resolve .text root = .ok (some (.many [none, some (.boolean true)])) ∧
      (∃ s, p.segments.getLast? = some s ∧ s.isFilter = true) ∧
      (Value.boolean true).isAbsent = false := by
  intro element root p
  have hparse : Path.parse "xs[k==a].v" = .ok p :=
    (Path.parse_eq_ok_iff _ _).mpr (by decide)
  have hfound : p.resolve .text root = .ok (some (.many [none, some (.boolean true)])) := by
    unfold p root element
    rfl
  obtain ⟨_, hmany, _⟩ := resolve_shape hparse .text root
  obtain ⟨hlast, _, hpresent⟩ := hmany _ hfound
  exact ⟨hparse, hfound, hlast, hpresent _ (by simp)⟩

end ObjectPath
