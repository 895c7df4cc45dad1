import ObjectPath.Proofs.Resolve.Presence

/-! The walk along a path: what one segment does with the trail, and where the walk ends. -/
namespace ObjectPath

theorem Trail.behind_behind (before after : List Record) (t : Trail) :
    behind before (behind after t) = behind (before ++ after) t := by
  simp [behind]

namespace Segment

/-- A segment leads from a value to one that is there, the value of its field or an element. -/
def Leads (s : Segment) (v u : Value) : Prop :=
  u.isAbsent = false ∧ ∃ w, v.field? s.name = some w ∧ w.isAbsent = false ∧
    (s.clause = .bare ∧ w = u ∨ ∃ token, s.clause = .key token ∧ w.lookup token = .found u)

/--
How the way ends at a segment whose field is there: the value of the field or the element under its
key is absent, or there is no such element.
-/
inductive Stops (s : Segment) (v : Value) : Outcome → Prop
  | value {w : Value} (hfield : v.field? s.name = some w) (hw : w.isAbsent = true) :
    Stops s v (.ok none)
  | element {w u : Value} {token : String} (hfield : v.field? s.name = some w)
    (hclause : s.clause = .key token) (hlookup : w.lookup token = .found u)
    (hu : u.isAbsent = true) : Stops s v (.ok none)
  | missing {w : Value} {token : String} (hfield : v.field? s.name = some w)
    (hw : w.isAbsent = false) (hclause : s.clause = .key token)
    (hlookup : w.lookup token = .missing) : Stops s v (.error (.noSuchKey token w.typeName))
  | unsupported {w : Value} {token : String} (hfield : v.field? s.name = some w)
    (hw : w.isAbsent = false) (hclause : s.clause = .key token)
    (hlookup : w.lookup token = .unsupported) : Stops s v (.error (.notKeyed w.typeName))

/-- A segment filters a value that is there, the one of its field. -/
structure Filters (s : Segment) (v w : Value) (field literal result : String) : Prop where
  clause : s.clause = .filter field literal result
  field? : v.field? s.name = some w
  isAbsent : w.isAbsent = false

variable {s : Segment} {v w u : Value} {o : Outcome} {field literal result : String}

/-- One step of the way: a segment fails, stops, filters, or leads to another value. -/
theorem cases_of_value (s : Segment) (v : Value) :
    v.field? s.name = none ∨ (∃ o, s.Stops v o) ∨
      (∃ w field literal result, s.Filters v w field literal result) ∨ ∃ u, s.Leads v u := by
  cases hfield : v.field? s.name with
  | none => exact .inl rfl
  | some w =>
    cases hw : w.isAbsent with
    | true => exact .inr (.inl ⟨_, .value hfield hw⟩)
    | false =>
      cases hclause : s.clause with
      | bare => exact .inr (.inr (.inr ⟨w, hw, w, hfield, hw, .inl ⟨hclause, rfl⟩⟩))
      | key token =>
        cases hlookup : w.lookup token with
        | found u =>
          cases hu : u.isAbsent with
          | true => exact .inr (.inl ⟨_, .element hfield hclause hlookup hu⟩)
          | false =>
            exact .inr (.inr (.inr ⟨u, hu, w, hfield, hw, .inr ⟨token, hclause, hlookup⟩⟩))
        | missing => exact .inr (.inl ⟨_, .missing hfield hw hclause hlookup⟩)
        | unsupported => exact .inr (.inl ⟨_, .unsupported hfield hw hclause hlookup⟩)
      | filter field literal result =>
        exact .inr (.inr (.inl ⟨w, field, literal, result, hclause, hfield, hw⟩))

namespace Leads

theorem isFilter_eq_false (h : s.Leads v u) : s.isFilter = false := by
  obtain ⟨_, w, _, _, ⟨hclause, _⟩ | ⟨token, hclause, _⟩⟩ := h <;>
    simp [Segment.isFilter, hclause, Clause.isFilter]

theorem walk_eq (h : s.Leads v u) (hv : v.isAbsent = false) (mode : Comparison)
    (rest : List Segment) :
    walk mode v (s :: rest) = .behind [.read s.name v.typeName] (walk mode u rest) := by
  obtain ⟨_, w, hfield, hw, ⟨hclause, rfl⟩ | ⟨token, hclause, hlookup⟩⟩ := h
  · rw [walk_field hv hfield]
    simp [hw, hclause, Clause.trail]
  · rw [walk_field hv hfield]
    simp [hw, hclause, Clause.trail, hlookup]

theorem resolve_eq (h : s.Leads v u) (hv : v.isAbsent = false) (mode : Comparison)
    (rest : List Segment) :
    Path.resolve mode v ⟨s :: rest⟩ = Path.resolve mode u ⟨rest⟩ := by
  simp only [Path.resolve, Path.trail, h.walk_eq hv]
  rfl

end Leads

namespace Stops

theorem ne_found (h : s.Stops v o) (found : Found) : o ≠ .ok (some found) := by
  cases h <;> simp

theorem walk_eq (h : s.Stops v o) (hv : v.isAbsent = false) (mode : Comparison)
    (rest : List Segment) :
    walk mode v (s :: rest) = .behind [.read s.name v.typeName] ⟨[], o⟩ := by
  cases h with
  | value hfield hw =>
    rw [walk_field hv hfield, if_pos hw]
    rfl
  | element hfield hclause hlookup hu =>
    rw [walk_field hv hfield]
    simp only [hclause, Clause.trail, hlookup, walk_of_isAbsent hu, ite_self]
    rfl
  | missing hfield hw hclause hlookup =>
    rw [walk_field hv hfield]
    simp [hw, hclause, Clause.trail, hlookup, Trail.failed]
  | unsupported hfield hw hclause hlookup =>
    rw [walk_field hv hfield]
    simp [hw, hclause, Clause.trail, hlookup, Trail.failed]

end Stops

namespace Filters

theorem isFilter_eq_true (h : s.Filters v w field literal result) : s.isFilter = true := by
  simp [Segment.isFilter, h.clause, Clause.isFilter]

theorem walk_eq (h : s.Filters v w field literal result) (hv : v.isAbsent = false)
    (mode : Comparison) (rest : List Segment) :
    walk mode v (s :: rest) = .behind [.read s.name v.typeName]
      (filterElements mode w field literal result) := by
  rw [walk_field hv h.field?]
  simp [h.isAbsent, h.clause, Clause.trail]

end Filters

end Segment

namespace Path

/-- A segment that does not filter leads on where the whole path leads to a single value. -/
theorem exists_leads {s : Segment} (hs : s.isFilter = false) {mode : Comparison} {v x : Value}
    {rest : List Segment} (h : resolve mode v ⟨s :: rest⟩ = .ok (some (.one x))) :
    ∃ u, s.Leads v u := by
  have hv : v.isAbsent = false := isAbsent_of_resolve h (by simp)
  rcases s.cases_of_value v with hfield | ⟨o, hstops⟩ | ⟨_, _, _, _, hfilters⟩ | hleads
  · simp [resolve_cons hv, hfield] at h
  · have ho : o = .ok (some (.one x)) := by
      simpa [resolve, trail, hstops.walk_eq hv, Trail.behind] using h
    exact absurd ho (hstops.ne_found _)
  · rw [hfilters.isFilter_eq_true] at hs
    exact Bool.noConfusion hs
  · exact hleads

/-- The whole way: every segment leads on, or one of them is reached and ends the way. -/
theorem cases_of_segments (mode : Comparison) (segments : List Segment) {root : Value}
    (hroot : root.isAbsent = false) :
    (∃ v, (∀ s ∈ segments, s.isFilter = false) ∧
      resolve mode root ⟨segments⟩ = .ok (some (.one v))) ∨
    ∃ front s rest v, segments = front ++ s :: rest ∧
      resolve mode root ⟨front⟩ = .ok (some (.one v)) ∧
      (v.field? s.name = none ∨ (∃ o, s.Stops v o) ∨
        ∃ w field literal result, s.Filters v w field literal result) := by
  induction segments generalizing root with
  | nil => exact .inl ⟨root, by simp, resolve_nil hroot mode⟩
  | cons s rest ih =>
    have hnil := resolve_nil hroot mode
    rcases s.cases_of_value root with hfield | hstops | hfilters | ⟨u, hu⟩
    · exact .inr ⟨[], s, rest, root, rfl, hnil, .inl hfield⟩
    · exact .inr ⟨[], s, rest, root, rfl, hnil, .inr (.inl hstops)⟩
    · exact .inr ⟨[], s, rest, root, rfl, hnil, .inr (.inr hfilters)⟩
    · rcases ih hu.1 with ⟨v, hfree, hv⟩ | ⟨front, t, after, v, rfl, hfront, hends⟩
      · refine .inl ⟨v, List.forall_mem_cons.mpr ⟨hu.isFilter_eq_false, hfree⟩, ?_⟩
        rw [hu.resolve_eq hroot, hv]
      · refine .inr ⟨s :: front, t, after, v, rfl, ?_, hends⟩
        rw [hu.resolve_eq hroot, hfront]

end Path

end ObjectPath
