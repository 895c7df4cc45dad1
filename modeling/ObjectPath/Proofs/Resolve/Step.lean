import ObjectPath.Resolve.Walk

/-! One step of a resolution: its trail and outcome when a segment stands in front of others. -/
namespace ObjectPath

/-- What a clause leads to on the value of its field, where `next` goes on from an element. -/
def Clause.outcome (mode : Comparison) (v : Value) (next : Value → Outcome) : Clause → Outcome
  | .bare => next v
  | .key token =>
    match v.lookup token with
    | .found element => next element
    | .missing => .error (.noSuchKey token v.typeName)
    | .unsupported => .error (.notKeyed v.typeName)
  | .filter field literal result => (filterElements mode v field literal result).outcome

/-- The trail of a clause on the value of its field, where `next` goes on from an element. -/
def Clause.trail (mode : Comparison) (v : Value) (next : Value → Trail) : Clause → Trail
  | .bare => next v
  | .key token =>
    match v.lookup token with
    | .found element => next element
    | .missing => .failed (.noSuchKey token v.typeName)
    | .unsupported => .failed (.notKeyed v.typeName)
  | .filter field literal result => filterElements mode v field literal result

theorem Clause.outcome_trail (mode : Comparison) (v : Value) (next : Value → Trail) (c : Clause) :
    (c.trail mode v next).outcome = c.outcome mode v fun u => (next u).outcome := by
  cases c with
  | bare => rfl
  | key token =>
    simp only [trail, outcome]
    cases v.lookup token <;> rfl
  | filter field literal result => rfl

def Trail.behind (records : List Record) (t : Trail) : Trail :=
  { t with records := records ++ t.records }

/-- The failure for a field that does not exist, which depends on whether more segments follow. -/
def Segment.missing (s : Segment) (rest : List Segment) (typeName : String) : Failure :=
  if rest.isEmpty then .noSuchField s.name typeName else .noSuchStep s.name typeName

theorem walk_of_isAbsent {v : Value} (h : v.isAbsent = true) (mode : Comparison)
    (segments : List Segment) : walk mode v segments = .nothing := by
  cases segments <;> simp [walk, h]

theorem walk_missing {v : Value} {s : Segment} (hv : v.isAbsent = false)
    (hfield : v.field? s.name = none) (mode : Comparison) (rest : List Segment) :
    walk mode v (s :: rest) = .failed (s.missing rest v.typeName) := by
  simp [walk, hv, hfield, Segment.missing]

/-- A field that is there is recorded, whether or not its value is absent. -/
theorem walk_field {v w : Value} {s : Segment} (hv : v.isAbsent = false)
    (hfield : v.field? s.name = some w) (mode : Comparison) (rest : List Segment) :
    walk mode v (s :: rest) = .behind [.read s.name v.typeName]
      (if w.isAbsent then .nothing else s.clause.trail mode w fun u => walk mode u rest) := by
  simp only [walk, hv, hfield, Bool.false_eq_true, if_false]
  cases s.clause <;> rfl

namespace Path

theorem resolve_of_isAbsent {v : Value} (h : v.isAbsent = true) (mode : Comparison) (p : Path) :
    p.resolve mode v = .ok none := by
  rw [resolve, trail, walk_of_isAbsent h]
  rfl

theorem isAbsent_of_resolve {mode : Comparison} {v : Value} {p : Path} {o : Outcome}
    (h : p.resolve mode v = o) (ho : o ≠ .ok none) : v.isAbsent = false := by
  rw [← Bool.not_eq_true]
  intro hv
  exact ho (h.symm.trans (resolve_of_isAbsent hv mode p))

theorem resolve_nil {v : Value} (h : v.isAbsent = false) (mode : Comparison) :
    resolve mode v ⟨[]⟩ = .ok (some (.one v)) := by
  simp [resolve, trail, walk, h, Trail.found]

/-- The first segment is read, its clause is applied, and the others go on from there. -/
theorem resolve_cons {v : Value} (h : v.isAbsent = false) (mode : Comparison) (s : Segment)
    (rest : List Segment) :
    resolve mode v ⟨s :: rest⟩ =
      match v.field? s.name with
      | none => .error (s.missing rest v.typeName)
      | some w =>
        if w.isAbsent then .ok none
        else s.clause.outcome mode w fun u => resolve mode u ⟨rest⟩ := by
  cases hfield : v.field? s.name with
  | none =>
    rw [resolve, trail, walk_missing h hfield]
    rfl
  | some w =>
    rw [resolve, trail, walk_field h hfield]
    simp only [Trail.behind]
    split
    · rfl
    · exact s.clause.outcome_trail mode w fun u => walk mode u rest

/--
A segment that does not filter does one of these things, whatever follows it: it finds nothing, its
field is missing, its key is missing or not supported, or the way goes on from some value.
-/
theorem resolve_cons_cases {s : Segment} (hs : s.isFilter = false) (mode : Comparison) (v : Value) :
    (∀ rest, resolve mode v ⟨s :: rest⟩ = .ok none) ∨
    (∀ rest, resolve mode v ⟨s :: rest⟩ = .error (s.missing rest v.typeName)) ∨
    (∃ token typeName, ∀ rest, resolve mode v ⟨s :: rest⟩ = .error (.noSuchKey token typeName)) ∨
    (∃ typeName, ∀ rest, resolve mode v ⟨s :: rest⟩ = .error (.notKeyed typeName)) ∨
    ∃ u, ∀ rest, resolve mode v ⟨s :: rest⟩ = resolve mode u ⟨rest⟩ := by
  cases hv : v.isAbsent with
  | true => exact .inl fun rest => resolve_of_isAbsent hv mode _
  | false =>
    simp only [resolve_cons hv]
    cases v.field? s.name with
    | none => exact .inr (.inl fun rest => rfl)
    | some w =>
      cases hw : w.isAbsent with
      | true => exact .inl fun rest => if_pos hw
      | false =>
        simp only [hw, Bool.false_eq_true, if_false]
        cases hclause : s.clause with
        | bare => exact .inr (.inr (.inr (.inr ⟨w, fun rest => rfl⟩)))
        | key token =>
          simp only [Clause.outcome]
          cases w.lookup token with
          | found u => exact .inr (.inr (.inr (.inr ⟨u, fun rest => rfl⟩)))
          | missing => exact .inr (.inr (.inl ⟨token, w.typeName, fun rest => rfl⟩))
          | unsupported => exact .inr (.inr (.inr (.inl ⟨w.typeName, fun rest => rfl⟩)))
        | filter field literal result =>
          rw [Segment.isFilter, hclause] at hs
          exact Bool.noConfusion hs

theorem resolve_field {v : Value} (h : v.isAbsent = false) (mode : Comparison) (name : String) :
    resolve mode v ⟨[.field name]⟩ =
      match v.field? name with
      | none => .error (.noSuchField name v.typeName)
      | some w => .ok (w.present?.map .one) := by
  rw [resolve_cons h]
  simp only [Segment.field]
  cases v.field? name with
  | none => rfl
  | some w =>
    cases hw : w.isAbsent with
    | true => simp [hw, Value.present?]
    | false => simp [hw, Value.present?, Clause.outcome, resolve_nil hw]

/-- A field that leads to a value is there, and so is its owner. -/
theorem resolve_field_eq_one {mode : Comparison} {v w : Value} {name : String}
    (h : resolve mode v ⟨[.field name]⟩ = .ok (some (.one w))) :
    v.isAbsent = false ∧ v.field? name = some w ∧ w.isAbsent = false := by
  cases hv : v.isAbsent with
  | true =>
    rw [resolve_of_isAbsent hv] at h
    simp at h
  | false =>
    rw [resolve_field hv] at h
    cases hf : v.field? name with
    | none => simp [hf] at h
    | some u =>
      cases hu : u.isAbsent with
      | true => simp [hf, hu, Value.present?] at h
      | false =>
        simp only [hf, hu, Value.present?, Bool.false_eq_true, if_false, Option.map_some,
          Except.ok.injEq, Option.some.injEq, Found.one.injEq] at h
        subst h
        exact ⟨rfl, rfl, hu⟩

/-- The way goes on from the value of a field, and ends there if that is absent. -/
theorem resolve_field_cons {v w : Value} {name : String} (hv : v.isAbsent = false)
    (hfield : v.field? name = some w) (mode : Comparison) (rest : List Segment) :
    resolve mode v ⟨.field name :: rest⟩ = resolve mode w ⟨rest⟩ := by
  have hname : v.field? (Segment.field name).name = some w := hfield
  rw [resolve_cons hv, hname]
  show (if w.isAbsent then .ok none else resolve mode w ⟨rest⟩) = resolve mode w ⟨rest⟩
  split
  · rename_i hw
    rw [resolve_of_isAbsent hw]
  · rfl

theorem resolve_field_missing {v : Value} {name : String} (hv : v.isAbsent = false)
    (hfield : v.field? name = none) (mode : Comparison) (rest : List Segment) :
    resolve mode v ⟨.field name :: rest⟩ =
      .error (if rest.isEmpty then .noSuchField name v.typeName
        else .noSuchStep name v.typeName) := by
  have hname : v.field? (Segment.field name).name = none := hfield
  rw [resolve_cons hv, hname]
  rfl

theorem resolve_key {v w u : Value} {name token : String} (hv : v.isAbsent = false)
    (hfield : v.field? name = some w) (hw : w.isAbsent = false)
    (hlookup : w.lookup token = .found u) (mode : Comparison) (rest : List Segment) :
    resolve mode v ⟨.key name token :: rest⟩ = resolve mode u ⟨rest⟩ := by
  rw [resolve_cons hv]
  simp [Segment.key, hfield, hw, Clause.outcome, hlookup]

theorem resolve_key_missing {v w : Value} {name token : String} (hv : v.isAbsent = false)
    (hfield : v.field? name = some w) (hw : w.isAbsent = false)
    (hlookup : w.lookup token = .missing) (mode : Comparison) (rest : List Segment) :
    resolve mode v ⟨.key name token :: rest⟩ = .error (.noSuchKey token w.typeName) := by
  have hname : v.field? (Segment.key name token).name = some w := hfield
  rw [resolve_cons hv, hname]
  simp only [hw, Bool.false_eq_true, if_false, Segment.key, Clause.outcome, hlookup]

theorem resolve_filter {v w : Value} {name : String} (hv : v.isAbsent = false)
    (hfield : v.field? name = some w) (hw : w.isAbsent = false) (mode : Comparison)
    (field literal result : String) :
    resolve mode v ⟨[.filter name field literal result]⟩ =
      (filterElements mode w field literal result).outcome := by
  rw [resolve_cons hv]
  simp [Segment.filter, hfield, hw, Clause.outcome]

end Path

/-- A filter without failures collapses what it projects from the elements that it keeps. -/
theorem outcome_filterElements {v : Value} {elements : List Value}
    (h : v.elements? = some elements) (mode : Comparison) (field literal result : String) :
    (filterElements mode v field literal result).outcome =
      (Filter.project result (elements.filter (Filter.keeps mode field literal))).map
        Filter.collapse := by
  simp only [filterElements, h]
  cases Filter.project result (elements.filter (Filter.keeps mode field literal)) <;> rfl

theorem outcome_filterElements_none {v : Value} (h : v.elements? = none) (mode : Comparison)
    (field literal result : String) :
    (filterElements mode v field literal result).outcome = .error (.notSequence v.typeName) := by
  simp only [filterElements, h]
  rfl

end ObjectPath
