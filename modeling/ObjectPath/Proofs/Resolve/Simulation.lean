import Mathlib.Data.List.Forall2
import ObjectPath.Proofs.Resolve.Step

/-! Resolving one path on two values that show the same to it leads to outcomes that correspond. -/
namespace ObjectPath

/-- Failures of one kind, about one name or key, on values whose type names are related. -/
inductive Failure.Related (T : String → String → Prop) : Failure → Failure → Prop
  | noSuchStep {name t u : String} (h : T t u) : Related T (.noSuchStep name t) (.noSuchStep name u)
  | noSuchField {name t u : String} (h : T t u) :
    Related T (.noSuchField name t) (.noSuchField name u)
  | noSuchKey {token t u : String} (h : T t u) : Related T (.noSuchKey token t) (.noSuchKey token u)
  | notKeyed {t u : String} (h : T t u) : Related T (.notKeyed t) (.notKeyed u)
  | notSequence {t u : String} (h : T t u) : Related T (.notSequence t) (.notSequence u)
  | malformed (e : SyntaxError) : Related T (.malformed e) (.malformed e)

inductive Lookup.Related (R : Value → Value → Prop) : Lookup → Lookup → Prop
  | found {v w : Value} (h : R v w) : Related R (.found v) (.found w)
  | missing : Related R .missing .missing
  | unsupported : Related R .unsupported .unsupported

theorem Lookup.Related.ofOption {R : Value → Value → Prop} {v? w? : Option Value}
    (h : Option.Rel R v? w?) : Lookup.Related R (.ofOption v?) (.ofOption w?) := by
  cases h with
  | none => exact .missing
  | some h => exact .found h

/-- A position selects related items from related sequences. -/
theorem Value.rel_item? {R : Value → Value → Prop} {items items' : List Value}
    (h : List.Forall₂ R items items') (token : String) :
    Option.Rel R (item? items token) (item? items' token) := by
  unfold item?
  cases Numeral.position? token.toList with
  | none => exact .none
  | some i =>
    show Option.Rel R items[i]? items'[i]?
    induction h generalizing i with
    | nil => exact .none
    | cons hvw _ ih =>
      cases i with
      | zero => exact .some hvw
      | succ i => exact ih i

/--
Outcomes of one kind: both find nothing, or single values, or as many values with gaps at the same
places, where values correspond; or both fail alike.
-/
inductive Outcome.Related (T : String → String → Prop) (R : Value → Value → Prop) :
    Outcome → Outcome → Prop
  | nothing : Related T R (.ok none) (.ok none)
  | one {v w : Value} (h : R v w) : Related T R (.ok (some (.one v))) (.ok (some (.one w)))
  | many {vs ws : List (Option Value)} (h : List.Forall₂ (Option.Rel R) vs ws) :
    Related T R (.ok (some (.many vs))) (.ok (some (.many ws)))
  | failed {e f : Failure} (h : Failure.Related T e f) : Related T R (.error e) (.error f)

theorem Outcome.Related.mono {T : String → String → Prop} {R S : Value → Value → Prop}
    (hRS : ∀ v w, R v w → S v w) {a b : Outcome} (h : Related T R a b) : Related T S a b := by
  cases h with
  | nothing => exact .nothing
  | one h => exact .one (hRS _ _ h)
  | many h =>
    refine .many (h.imp ?_)
    intro v w hvw
    cases hvw with
    | some h => exact .some (hRS _ _ h)
    | none => exact .none
  | failed h => exact .failed h

theorem Failure.Related.eq {e f : Failure} (h : Failure.Related Eq e f) : e = f := by
  cases h with
  | noSuchStep h => rw [h]
  | noSuchField h => rw [h]
  | noSuchKey h => rw [h]
  | notKeyed h => rw [h]
  | notSequence h => rw [h]
  | malformed e => rfl

def Found.map (f : Value → Value) : Found → Found
  | one v => one (f v)
  | many vs => many (vs.map (Option.map f))

/-- Where the related value is a function of a value, so is the related outcome of an outcome. -/
theorem Outcome.Related.eq_map {R : Value → Value → Prop} {f : Value → Value}
    (hR : ∀ v w, R v w → w = f v) {a b : Outcome} (h : Related Eq R a b) :
    b = a.map (Option.map (Found.map f)) := by
  cases h with
  | nothing => rfl
  | one h =>
    rw [hR _ _ h]
    rfl
  | @many vs ws h =>
    have hws : ws = vs.map (Option.map f) := by
      induction h with
      | nil => rfl
      | cons hvw _ ih =>
        rw [List.map_cons, ← ih]
        cases hvw with
        | none => rfl
        | some h =>
          rw [hR _ _ h]
          rfl
    rw [hws]
    rfl
  | failed h =>
    rw [h.eq]
    rfl

/-- Where only equal values are related, so are only equal outcomes. -/
theorem Outcome.Related.eq {R : Value → Value → Prop} (hR : ∀ v w, R v w → v = w) {a b : Outcome}
    (h : Related Eq R a b) : a = b := by
  have hmap : Found.map id = id := by
    funext found
    cases found <;> simp [Found.map]
  have hb := h.eq_map (f := id) fun v w hvw => (hR v w hvw).symm
  rw [hb, hmap]
  cases a <;> simp [Except.map]

/-- The second outcome is related to the first, unless that says that a value has no keys. -/
def Outcome.Follows (lenient : Prop) (T : String → String → Prop) (R : Value → Value → Prop)
    (a b : Outcome) : Prop :=
  (lenient ∧ ∃ typeName, a = .error (.notKeyed typeName)) ∨ Outcome.Related T R a b

/--
A relation between values that no step of a path can tell apart: what the path asks related values
for is related again. Where it is `lenient`, a value may refuse a key that the other one has.
-/
structure Simulation (path : List Segment) (mode mode' : Comparison) (lenient : Prop)
    (T : String → String → Prop) (R : Value → Value → Prop) : Prop where
  typeName : ∀ {v w : Value}, R v w → T v.typeName w.typeName
  isAbsent : ∀ {v w : Value}, R v w → v.isAbsent = w.isAbsent
  field? : ∀ {v w : Value}, R v w → ∀ s ∈ path, ∀ name ∈ s.fields,
    Option.Rel R (v.field? name) (w.field? name)
  lookup : ∀ {v w : Value}, R v w → ∀ s ∈ path, ∀ token, s.clause = .key token →
    (lenient ∧ v.lookup token = .unsupported) ∨ Lookup.Related R (v.lookup token) (w.lookup token)
  elements? : ∀ {v w : Value}, R v w →
    Option.Rel (List.Forall₂ R) v.elements? w.elements?
  holds : ∀ {v w : Value}, R v w → ∀ s ∈ path, ∀ field literal result,
    s.clause = .filter field literal result → mode.holds v literal = mode'.holds w literal

namespace Simulation

variable {path : List Segment} {mode mode' : Comparison} {lenient : Prop}
  {T : String → String → Prop} {R : Value → Value → Prop}

theorem present? (h : Simulation path mode mode' lenient T R) {v w : Value} (hvw : R v w) :
    Option.Rel R v.present? w.present? := by
  unfold Value.present?
  rw [h.isAbsent hvw]
  split
  · exact .none
  · exact .some hvw

theorem keeps (h : Simulation path mode mode' lenient T R) {s : Segment} (hs : s ∈ path)
    {field literal result : String} (hclause : s.clause = .filter field literal result)
    {v w : Value} (hvw : R v w) :
    Filter.keeps mode field literal v = Filter.keeps mode' field literal w := by
  have hname : field ∈ s.fields := by simp [Segment.fields, hclause, Clause.fields]
  have hfield := h.field? hvw s hs field hname
  unfold Filter.keeps
  rw [h.isAbsent hvw]
  generalize v.field? field = a at hfield ⊢
  generalize w.field? field = b at hfield ⊢
  cases hfield with
  | none => rfl
  | some hcd =>
    have hholds := h.holds hcd s hs field literal result hclause
    simp only [hholds]

theorem project (h : Simulation path mode mode' lenient T R) {s : Segment} (hs : s ∈ path)
    {field literal result : String} (hclause : s.clause = .filter field literal result)
    {es fs : List Value} (hes : List.Forall₂ R es fs) :
    (∃ e f, Filter.project result es = .error e ∧ Filter.project result fs = .error f ∧
      Failure.Related T e f) ∨
    (∃ vs ws, Filter.project result es = .ok vs ∧ Filter.project result fs = .ok ws ∧
      List.Forall₂ (Option.Rel R) vs ws) := by
  have hname : result ∈ s.fields := by simp [Segment.fields, hclause, Clause.fields]
  induction hes with
  | nil => exact .inr ⟨[], [], rfl, rfl, .nil⟩
  | @cons v w es fs hvw hes ih =>
    have hfield := h.field? hvw s hs result hname
    unfold Filter.project
    generalize v.field? result = a at hfield ⊢
    generalize w.field? result = b at hfield ⊢
    cases hfield with
    | none => exact .inl ⟨_, _, rfl, rfl, .noSuchField (h.typeName hvw)⟩
    | some hcd =>
      have hpresent := h.present? hcd
      rcases ih with ⟨e, f, he, hf, hef⟩ | ⟨vs, ws, hvs, hws, hvws⟩
      · rw [he, hf]
        exact .inl ⟨e, f, rfl, rfl, hef⟩
      · rw [hvs, hws]
        exact .inr ⟨_, _, rfl, rfl, .cons hpresent hvws⟩

theorem collapse {vs ws : List (Option Value)} (h : List.Forall₂ (Option.Rel R) vs ws) :
    Outcome.Related T R (.ok (Filter.collapse vs)) (.ok (Filter.collapse ws)) := by
  cases h with
  | nil => exact .many .nil
  | cons hvw hrest =>
    cases hrest with
    | nil =>
      cases hvw with
      | some hvw => exact .one hvw
      | none => exact .nothing
    | cons hvw' hrest => exact .many (.cons hvw (.cons hvw' hrest))

theorem filterElements (h : Simulation path mode mode' lenient T R) {s : Segment} (hs : s ∈ path)
    {field literal result : String} (hclause : s.clause = .filter field literal result)
    {v w : Value} (hvw : R v w) :
    Outcome.Related T R (filterElements mode v field literal result).outcome
      (ObjectPath.filterElements mode' w field literal result).outcome := by
  have helements := h.elements? hvw
  generalize hv : v.elements? = a at helements
  generalize hw : w.elements? = b at helements
  cases helements with
  | none =>
    rw [outcome_filterElements_none hv, outcome_filterElements_none hw]
    exact .failed (.notSequence (h.typeName hvw))
  | @some es fs hes =>
    have hkept : List.Forall₂ R (es.filter (Filter.keeps mode field literal))
        (fs.filter (Filter.keeps mode' field literal)) := by
      refine List.rel_filter ?_ hes
      intro c d hcd
      exact Bool.eq_iff_iff.mp (h.keeps hs hclause hcd)
    rw [outcome_filterElements hv, outcome_filterElements hw]
    rcases h.project hs hclause hkept with ⟨e, f, he, hf, hef⟩ | ⟨vs, ws, hvs, hws, hvws⟩
    · rw [he, hf]
      exact .failed hef
    · rw [hvs, hws]
      exact collapse hvws

theorem missing (h : Simulation path mode mode' lenient T R) (s : Segment) (rest : List Segment)
    {v w : Value} (hvw : R v w) :
    Failure.Related T (s.missing rest v.typeName) (s.missing rest w.typeName) := by
  unfold Segment.missing
  split
  · exact .noSuchField (h.typeName hvw)
  · exact .noSuchStep (h.typeName hvw)

/-- A clause leads related values to related ones, from where the ways go on. -/
theorem outcome (h : Simulation path mode mode' lenient T R) {s : Segment} (hs : s ∈ path)
    {next next' : Value → Outcome}
    (hnext : ∀ {v w : Value}, R v w → Outcome.Follows lenient T R (next v) (next' w))
    {v w : Value} (hvw : R v w) :
    Outcome.Follows lenient T R (s.clause.outcome mode v next)
      (s.clause.outcome mode' w next') := by
  cases hclause : s.clause with
  | bare => exact hnext hvw
  | key token =>
    simp only [Clause.outcome]
    rcases h.lookup hvw s hs token hclause with ⟨hlenient, hrefused⟩ | hlookup
    · rw [hrefused]
      exact .inl ⟨hlenient, v.typeName, rfl⟩
    · generalize v.lookup token = a at hlookup ⊢
      generalize w.lookup token = b at hlookup ⊢
      cases hlookup with
      | found hcd => exact hnext hcd
      | missing => exact .inr (.failed (.noSuchKey (h.typeName hvw)))
      | unsupported => exact .inr (.failed (.notKeyed (h.typeName hvw)))
  | filter field literal result => exact .inr (h.filterElements hs hclause hvw)

theorem resolve_of_isAbsent (h : Simulation path mode mode' lenient T R) {v w : Value}
    (hvw : R v w) (hv : v.isAbsent = true) (p : Path) :
    Outcome.Follows lenient T R (p.resolve mode v) (p.resolve mode' w) := by
  have hw : w.isAbsent = true := h.isAbsent hvw ▸ hv
  rw [Path.resolve_of_isAbsent hv, Path.resolve_of_isAbsent hw]
  exact .inr .nothing

/-- The induction is on the segments that are left; each step leads to related values again. -/
theorem resolve (h : Simulation path mode mode' lenient T R) {rest : List Segment}
    (hrest : rest ⊆ path) {v w : Value} (hvw : R v w) :
    Outcome.Follows lenient T R (Path.resolve mode v ⟨rest⟩) (Path.resolve mode' w ⟨rest⟩) := by
  induction rest generalizing v w with
  | nil =>
    cases hv : v.isAbsent with
    | true => exact h.resolve_of_isAbsent hvw hv _
    | false =>
      rw [Path.resolve_nil hv, Path.resolve_nil (h.isAbsent hvw ▸ hv)]
      exact .inr (.one hvw)
  | cons s rest ih =>
    have hs : s ∈ path := hrest List.mem_cons_self
    have hsubset : rest ⊆ path := fun t ht => hrest (List.mem_cons_of_mem s ht)
    cases hv : v.isAbsent with
    | true => exact h.resolve_of_isAbsent hvw hv _
    | false =>
      rw [Path.resolve_cons hv, Path.resolve_cons (h.isAbsent hvw ▸ hv)]
      have hfield := h.field? hvw s hs s.name List.mem_cons_self
      generalize v.field? s.name = a at hfield ⊢
      generalize w.field? s.name = b at hfield ⊢
      cases hfield with
      | none => exact .inr (.failed (h.missing s rest hvw))
      | @some c d hcd =>
        show Outcome.Follows lenient T R (if c.isAbsent then _ else _) (if d.isAbsent then _ else _)
        rw [h.isAbsent hcd]
        split
        · exact .inr .nothing
        · exact h.outcome hs (ih hsubset) hcd

theorem related {p : Path} (h : Simulation p.segments mode mode' False T R) {v w : Value}
    (hvw : R v w) : Outcome.Related T R (p.resolve mode v) (p.resolve mode' w) :=
  (h.resolve (List.Subset.refl _) hvw).resolve_left fun hlenient => hlenient.1

end Simulation

namespace Value

/-- A property of values that goes over to their fields, to what keys select, and to elements. -/
structure Inherited (P : Value → Prop) : Prop where
  field? : ∀ {v w : Value} {name : String}, P v → v.field? name = some w → P w
  lookup : ∀ {v w : Value} {token : String}, P v → v.lookup token = .found w → P w
  elements? : ∀ {v : Value} {items : List Value}, P v → v.elements? = some items → ∀ w ∈ items, P w

/-- Values with an inherited property do not tell modes apart that agree on the filters for them. -/
theorem Inherited.simulation {P : Value → Prop} (hP : Inherited P) {path : List Segment}
    {mode mode' : Comparison}
    (hholds : ∀ s ∈ path, ∀ field literal result, s.clause = .filter field literal result →
      ∀ v, P v → mode.holds v literal = mode'.holds v literal) :
    Simulation path mode mode' False Eq fun v w => v = w ∧ P v where
  typeName h := by rw [h.1]
  isAbsent h := by rw [h.1]
  field? := by
    rintro v _ ⟨rfl, hv⟩ s - name -
    cases hfield : v.field? name with
    | none => exact .none
    | some w => exact .some ⟨rfl, hP.field? hv hfield⟩
  lookup := by
    rintro v _ ⟨rfl, hv⟩ s - token -
    right
    cases hlookup : v.lookup token with
    | found w => exact .found ⟨rfl, hP.lookup hv hlookup⟩
    | missing => exact .missing
    | unsupported => exact .unsupported
  elements? := by
    rintro v _ ⟨rfl, hv⟩
    cases helements : v.elements? with
    | none => exact .none
    | some items =>
      refine .some (List.forall₂_same.mpr ?_)
      intro w hw
      exact ⟨rfl, hP.elements? hv helements w hw⟩
  holds := by
    rintro v _ ⟨rfl, hv⟩ s hs field literal result hclause
    exact hholds s hs field literal result hclause v hv

end Value

end ObjectPath
