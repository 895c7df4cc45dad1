import ObjectPath.Proofs.Path.Parsing
import ObjectPath.Proofs.Resolve.Step

/-! Resolution composes: a path is resolved by resolving its front, and the rest from there. -/
namespace ObjectPath

/--
The outcome of a path from that of its front. The way goes on from a single value, and a field that
is missing at the end of the front is missing on the way.
-/
def Outcome.andThen (front : Outcome) (next : Value → Outcome) : Outcome :=
  match front with
  | .ok (some (.one v)) => next v
  | .ok found => .ok found
  | .error (.noSuchField name typeName) => .error (.noSuchStep name typeName)
  | .error e => .error e

/-- Where the whole leads to a single value, the front does. -/
theorem Outcome.andThen_eq_one {front : Outcome} {next : Value → Outcome} {v : Value}
    (h : front.andThen next = .ok (some (.one v))) :
    ∃ u, front = .ok (some (.one u)) ∧ next u = .ok (some (.one v)) := by
  unfold Outcome.andThen at h
  split at h
  · exact ⟨_, rfl, h⟩
  · rename_i hone
    simp only [Except.ok.injEq] at h
    exact absurd h (hone v)
  · simp at h
  · simp at h

namespace Path

/-- Only a filter leads to many values. -/
theorem resolve_ne_many {segments : List Segment} (hfree : ∀ s ∈ segments, s.isFilter = false)
    (mode : Comparison) (root : Value) (vs : List (Option Value)) :
    resolve mode root ⟨segments⟩ ≠ .ok (some (.many vs)) := by
  induction segments generalizing root with
  | nil =>
    cases hroot : root.isAbsent with
    | true => simp [resolve_of_isAbsent hroot]
    | false => simp [resolve_nil hroot]
  | cons s rest ih =>
    have hs := hfree s List.mem_cons_self
    have hrest := ih fun t ht => hfree t (List.mem_cons_of_mem s ht)
    rcases resolve_cons_cases hs mode root with h | h | ⟨_, _, h⟩ | ⟨_, h⟩ | ⟨u, h⟩
    · simp [h]
    · simp [h]
    · simp [h]
    · simp [h]
    · rw [h]
      exact hrest u

/-- The induction is on the front; each of its segments does the same whatever follows it. -/
theorem resolve_append {front back : List Segment} (hfree : ∀ s ∈ front, s.isFilter = false)
    (hback : back ≠ []) (mode : Comparison) (root : Value) :
    resolve mode root ⟨front ++ back⟩ =
      (resolve mode root ⟨front⟩).andThen fun v => resolve mode v ⟨back⟩ := by
  induction front generalizing root with
  | nil =>
    cases hroot : root.isAbsent with
    | true => simp [resolve_of_isAbsent hroot, Outcome.andThen]
    | false => simp [resolve_nil hroot, Outcome.andThen]
  | cons s rest ih =>
    have hs := hfree s List.mem_cons_self
    have hrest := ih fun t ht => hfree t (List.mem_cons_of_mem s ht)
    rw [List.cons_append]
    rcases resolve_cons_cases hs mode root with h | h | ⟨_, _, h⟩ | ⟨_, h⟩ | ⟨u, h⟩
    · rw [h, h]
      rfl
    · have hmore : (rest ++ back).isEmpty = false := by simp [hback]
      rw [h, h]
      cases hempty : rest.isEmpty <;> simp [Segment.missing, hmore, hempty, Outcome.andThen]
    · rw [h, h]
      rfl
    · rw [h, h]
      rfl
    · rw [h, h]
      exact hrest u

theorem resolve_append_of_one {front back : List Segment}
    (hfree : ∀ s ∈ front, s.isFilter = false) (hback : back ≠ []) {mode : Comparison}
    {root v : Value} (hfront : resolve mode root ⟨front⟩ = .ok (some (.one v))) :
    resolve mode root ⟨front ++ back⟩ = resolve mode v ⟨back⟩ := by
  rw [resolve_append hfree hback, hfront]
  rfl

/-- A field that leads to a single value is there on a value that the front leads to. -/
theorem exists_owner {front : List Segment} (hfree : ∀ s ∈ front, s.isFilter = false)
    {mode : Comparison} {root c : Value} {name : String}
    (h : resolve mode root ⟨front ++ [.field name]⟩ = .ok (some (.one c))) :
    ∃ owner, resolve mode root ⟨front⟩ = .ok (some (.one owner)) ∧ owner.isAbsent = false ∧
      owner.field? name = some c ∧ c.isAbsent = false := by
  rw [resolve_append hfree (List.cons_ne_nil _ _)] at h
  obtain ⟨owner, howner, hlast⟩ := Outcome.andThen_eq_one h
  exact ⟨owner, howner, resolve_field_eq_one hlast⟩

end Path

/-- The texts of two paths, the first without filter, are joined by a dot. -/
theorem Path.parse_append {a b : String} {p q : Path} (ha : parse a = .ok p)
    (hfree : ∀ s ∈ p.segments, s.isFilter = false) (hb : parse b = .ok q) :
    parse (a ++ "." ++ b) = .ok ⟨p.segments ++ q.segments⟩ := by
  obtain ⟨hp, rfl⟩ := parse_eq_ok ha
  obtain ⟨hq, rfl⟩ := parse_eq_ok hb
  have hjoined : (Path.mk (p.segments ++ q.segments)).render = p.render ++ "." ++ q.render := by
    rw [← String.toList_inj]
    simp [chars, charsOf_append hp.nonempty hq.nonempty]
  rw [← hjoined]
  exact parse_render (hp.append hfree hq)

theorem resolve_malformed {root : Value} (hroot : root.isAbsent = false) {text : String}
    {e : SyntaxError} (h : Path.parse text = .error e) (mode : Comparison) :
    resolve mode root text = .error (.malformed e) := by
  rw [resolve, resolveTrail, hroot, readAndTrail, h]
  rfl

theorem resolve_eq_resolve_path {text : String} {p : Path} (h : Path.parse text = .ok p)
    (mode : Comparison) (root : Value) : resolve mode root text = p.resolve mode root := by
  unfold resolve resolveTrail
  cases hroot : root.isAbsent with
  | true =>
    rw [Path.resolve_of_isAbsent hroot]
    rfl
  | false =>
    simp only [readAndTrail, h, Bool.false_eq_true, if_false]
    rfl

/--
The outcome of two paths in a row is that of the second from where the first leads; this holds of
lists of segments, and of texts that are joined by a dot.
-/
theorem resolve_composes (mode : Comparison) (root : Value) :
    (∀ front back : List Segment, (∀ s ∈ front, s.isFilter = false) → back ≠ [] →
      (∀ vs, Path.resolve mode root ⟨front⟩ ≠ .ok (some (.many vs))) ∧
      Path.resolve mode root ⟨front ++ back⟩ =
        (Path.resolve mode root ⟨front⟩).andThen fun v => Path.resolve mode v ⟨back⟩) ∧
    (∀ (a b : String) (p q : Path), Path.parse a = .ok p →
      (∀ s ∈ p.segments, s.isFilter = false) → Path.parse b = .ok q →
      (∀ vs, resolve mode root a ≠ .ok (some (.many vs))) ∧
      resolve mode root (a ++ "." ++ b) =
        (resolve mode root a).andThen fun v => resolve mode v b) := by
  constructor
  · intro front back hfree hback
    exact ⟨Path.resolve_ne_many hfree mode root, Path.resolve_append hfree hback mode root⟩
  · intro a b p q ha hfree hb
    have hq := (Path.parse_eq_ok hb).1.nonempty
    have hmany := Path.resolve_ne_many hfree mode root
    have happend := Path.resolve_append hfree hq mode root
    have hnext : (fun v => resolve mode v b) = fun v => q.resolve mode v := by
      funext v
      exact resolve_eq_resolve_path hb mode v
    rw [resolve_eq_resolve_path ha, resolve_eq_resolve_path (Path.parse_append ha hfree hb), hnext]
    exact ⟨hmany, happend⟩

theorem resolve_composes_missing :
    let root : Value := .json (.object [("a", .object [("x", .null)])])
    Path.resolve .typed root ⟨[.field "a", .field "y"] ++ [.field "z"]⟩ =
        .error (.noSuchStep "y" "object") ∧
      resolve .typed root ("a.y" ++ "." ++ "z") = .error (.noSuchStep "y" "object") := by
  intro root
  have hfree : ∀ s ∈ [Segment.field "a", Segment.field "y"], s.isFilter = false := by decide
  have hfront : Path.parse "a.y" = .ok ⟨[.field "a", .field "y"]⟩ := by
    have hrender : Path.render ⟨[.field "a", .field "y"]⟩ = "a.y" := by decide
    rw [← hrender]
    exact Path.parse_render (by decide)
  have hback : Path.parse "z" = .ok ⟨[.field "z"]⟩ := by
    have hrender : Path.render ⟨[.field "z"]⟩ = "z" := by decide
    rw [← hrender]
    exact Path.parse_render (by decide)
  obtain ⟨hpaths, htexts⟩ := resolve_composes .typed root
  constructor
  · rw [(hpaths _ [.field "z"] hfree (by decide)).2]
    rfl
  · rw [(htexts "a.y" "z" _ _ hfront hfree hback).2, resolve_eq_resolve_path hfront]
    rfl

end ObjectPath
