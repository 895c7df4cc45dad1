import ObjectPath.Proofs.Json.Literal
import ObjectPath.Proofs.Resolve.Simulation

/-! Resolving a path on a document depends only on the members whose keys the path names. -/
namespace ObjectPath

namespace Json

mutual

/-- A document without the members of its objects, at any depth, whose keys are not listed. -/
def prune (keys : List String) : Json → Json
  | array items => array (pruneItems keys items)
  | object members => object (pruneMembers keys members)
  | null => null
  | bool b => bool b
  | number n => number n
  | string s => string s

def pruneItems (keys : List String) : List Json → List Json
  | [] => []
  | j :: js => j.prune keys :: pruneItems keys js

def pruneMembers (keys : List String) : List (String × Json) → List (String × Json)
  | [] => []
  | (k, j) :: ms =>
    if k ∈ keys then (k, j.prune keys) :: pruneMembers keys ms else pruneMembers keys ms

end

theorem pruneItems_eq (keys : List String) (items : List Json) :
    pruneItems keys items = items.map (prune keys) := by
  induction items with
  | nil => rfl
  | cons j js ih => rw [pruneItems, ih, List.map_cons]

theorem find?_pruneMembers {keys : List String} {key : String} (h : key ∈ keys)
    (members : List (String × Json)) :
    Entries.find? key (pruneMembers keys members) =
      (Entries.find? key members).map (prune keys) := by
  induction members with
  | nil => rfl
  | cons m ms ih =>
    obtain ⟨k, j⟩ := m
    by_cases hkey : k = key
    · subst hkey
      simp [pruneMembers, h, Entries.find?]
    · by_cases hk : k ∈ keys <;> simp [pruneMembers, hk, Entries.find?, hkey, ih]

/-- Pruning changes no scalar, and nothing else equals a scalar. -/
theorem equalValue_prune {literal : Json} (h : literal.isScalar = true) (keys : List String)
    (j : Json) : (j.prune keys).equalValue literal = j.equalValue literal := by
  cases j with
  | array items => rw [prune, equalValue_eq_false rfl h, equalValue_eq_false rfl h]
  | object members => rw [prune, equalValue_eq_false rfl h, equalValue_eq_false rfl h]
  | _ => rfl

end Json

def Path.tokens (p : Path) : List String :=
  p.segments.filterMap fun s =>
    match s.clause with
    | .key token => some token
    | _ => none

theorem Path.mem_tokens {p : Path} {s : Segment} (hs : s ∈ p.segments) {token : String}
    (hclause : s.clause = .key token) : token ∈ p.tokens := by
  refine List.mem_filterMap.mpr ⟨s, hs, ?_⟩
  rw [hclause]

namespace Value

def prune (keys : List String) : Value → Value
  | json j => json (j.prune keys)
  | v => v

def Prunes (keys : List String) (v w : Value) : Prop := ∃ j, v = json j ∧ w = json (j.prune keys)

variable {keys : List String}

theorem rel_prune (j? : Option Json) :
    Option.Rel (Prunes keys) (j?.map json) ((j?.map (Json.prune keys)).map json) := by
  cases j? with
  | none => exact .none
  | some j => exact .some ⟨j, rfl, rfl⟩

theorem forall₂_prune (items : List Json) :
    List.Forall₂ (Prunes keys) (items.map json) ((Json.pruneItems keys items).map json) := by
  rw [Json.pruneItems_eq, List.map_map, List.forall₂_map_left_iff, List.forall₂_map_right_iff,
    List.forall₂_same]
  intro j _
  exact ⟨j, rfl, rfl⟩

/-- What a listed key selects in an object is still there when the object is pruned. -/
theorem rel_find?_prune {key : String} (h : key ∈ keys) (members : List (String × Json)) :
    Option.Rel (Prunes keys) ((Entries.find? key members).map json)
      ((Entries.find? key (Json.pruneMembers keys members)).map json) := by
  rw [Json.find?_pruneMembers h]
  exact rel_prune _

namespace Prunes

variable {v w : Value}

theorem typeName (h : Prunes keys v w) : v.typeName = w.typeName := by
  obtain ⟨j, rfl, rfl⟩ := h
  cases j <;> rfl

theorem isAbsent (h : Prunes keys v w) : v.isAbsent = w.isAbsent := by
  obtain ⟨j, rfl, rfl⟩ := h
  cases j <;> rfl

theorem field? (h : Prunes keys v w) {name : String} (hname : name ∈ keys) :
    Option.Rel (Prunes keys) (v.field? name) (w.field? name) := by
  obtain ⟨j, rfl, rfl⟩ := h
  cases j with
  | object members => exact rel_find?_prune hname members
  | _ => exact .none

theorem lookup (h : Prunes keys v w) {token : String} (htoken : token ∈ keys) :
    Lookup.Related (Prunes keys) (v.lookup token) (w.lookup token) := by
  obtain ⟨j, rfl, rfl⟩ := h
  cases j with
  | object members => exact .ofOption (rel_find?_prune htoken members)
  | array items => exact .ofOption (rel_item? (forall₂_prune items) token)
  | _ => exact .unsupported

theorem elements? (h : Prunes keys v w) :
    Option.Rel (List.Forall₂ (Prunes keys)) v.elements? w.elements? := by
  obtain ⟨j, rfl, rfl⟩ := h
  cases j with
  | array items => exact .some (forall₂_prune items)
  | _ => exact .none

theorem holds (h : Prunes keys v w) (mode : Comparison) (literal : String) :
    mode.holds v literal = mode.holds w literal := by
  obtain ⟨j, rfl, rfl⟩ := h
  cases mode with
  | text => cases j <;> rfl
  | typed => exact (Json.equalValue_prune (Json.isScalar_ofLiteral literal) keys j).symm

end Prunes

/-- No step of a path tells a document from the pruned one when all it names is kept. -/
theorem simulation_prunes {path : List Segment}
    (hfields : ∀ s ∈ path, ∀ name ∈ s.fields, name ∈ keys)
    (htokens : ∀ s ∈ path, ∀ token, s.clause = .key token → token ∈ keys) (mode : Comparison) :
    Simulation path mode mode False Eq (Prunes keys) where
  typeName h := h.typeName
  isAbsent h := h.isAbsent
  field? h s hs name hname := h.field? (hfields s hs name hname)
  lookup h s hs token hclause := .inr (h.lookup (htokens s hs token hclause))
  elements? h := h.elements?
  holds h _ _ _ literal _ _ := h.holds mode literal

end Value

/--
A document may be pruned to the members that a path names, as fields or in brackets: the path then
fails in the same way, finds nothing in the same cases, and otherwise finds the same values, pruned.
-/
theorem resolve_prune (mode : Comparison) (d : Json) (p : Path) :
    let keys := p.accessedFields ++ p.tokens
    p.resolve mode (.json (d.prune keys)) =
      (p.resolve mode (.json d)).map (Option.map (Found.map (Value.prune keys))) := by
  intro keys
  have hfields : ∀ s ∈ p.segments, ∀ name ∈ s.fields, name ∈ keys := by
    intro s hs name hname
    exact List.mem_append_left _ (List.mem_flatMap.mpr ⟨s, hs, hname⟩)
  have htokens : ∀ s ∈ p.segments, ∀ token, s.clause = .key token → token ∈ keys := by
    intro s hs token hclause
    exact List.mem_append_right _ (Path.mem_tokens hs hclause)
  have hprunes : Value.Prunes keys (.json d) (.json (d.prune keys)) := ⟨d, rfl, rfl⟩
  rcases (Value.simulation_prunes hfields htokens mode).resolve (List.Subset.refl _) hprunes with
    ⟨hlenient, _⟩ | hrelated
  · exact hlenient.elim
  · refine hrelated.eq_map ?_
    rintro v w ⟨j, rfl, rfl⟩
    rfl

end ObjectPath
