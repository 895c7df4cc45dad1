import Mathlib.Data.List.Sort
import ObjectPath.Proofs.Position
import ObjectPath.Proofs.Resolve.Composition

/-! A filter finds what the positions that it keeps lead to one by one. -/
namespace ObjectPath

namespace Outcome

def failure? : Outcome → Option Failure
  | .error e => some e
  | .ok _ => none

def value? : Outcome → Option Value
  | .ok (some (.one v)) => some v
  | _ => none

/--
What several outcomes make together: the first failure among them; one outcome alone stands for
itself; and else they make many values, with none where nothing was found.
-/
def gather (outcomes : List Outcome) : Outcome :=
  match outcomes.findSome? failure? with
  | some e => .error e
  | none =>
    match outcomes with
    | [outcome] => outcome
    | _ => .ok (some (.many (outcomes.map value?)))

theorem value?_one (v : Option Value) : value? (.ok (v.map .one)) = v := by
  cases v <;> rfl

end Outcome

namespace Filter

theorem keeps_eq_true_iff {mode : Comparison} {field literal : String} {e : Value} :
    keeps mode field literal e = true ↔
      e.isAbsent = false ∧ ∃ v, e.field? field = some v ∧ mode.holds v literal = true := by
  rw [keeps, Bool.and_eq_true, Bool.not_eq_true']
  cases e.field? field <;> simp

/-- The projection of elements that are there amounts to reading the field on each of them. -/
theorem project_eq (mode : Comparison) (result : String) {elements : List Value}
    (h : ∀ e ∈ elements, e.isAbsent = false) :
    project result elements =
      let outcomes := elements.map fun e => Path.resolve mode e ⟨[.field result]⟩
      match outcomes.findSome? Outcome.failure? with
      | some e => .error e
      | none => .ok (outcomes.map Outcome.value?) := by
  induction elements with
  | nil => rfl
  | cons e es ih =>
    have he := h e List.mem_cons_self
    have hes := ih fun d hd => h d (List.mem_cons_of_mem e hd)
    simp only [project, List.map_cons, List.findSome?_cons, Path.resolve_field he]
    cases e.field? result with
    | none => rfl
    | some v =>
      rw [hes]
      simp only [Outcome.failure?, Outcome.value?_one]
      cases (es.map fun e => Path.resolve mode e ⟨[.field result]⟩).findSome? Outcome.failure? <;>
        rfl

/-- Collapsing a projection gathers the outcomes of reading the field. -/
theorem map_collapse_project (mode : Comparison) (result : String) {elements : List Value}
    (h : ∀ e ∈ elements, e.isAbsent = false) :
    (project result elements).map collapse =
      Outcome.gather (elements.map fun e => Path.resolve mode e ⟨[.field result]⟩) := by
  rw [project_eq mode result h]
  simp only [Outcome.gather]
  cases hf : (elements.map fun e => Path.resolve mode e ⟨[.field result]⟩).findSome?
      Outcome.failure? with
  | some e => rfl
  | none =>
    match elements, h with
    | [], _ => rfl
    | [e], h =>
      have he := h e List.mem_cons_self
      simp only [List.map_cons, List.map_nil, Path.resolve_field he] at hf ⊢
      cases hv : e.field? result with
      | none => simp [hv, Outcome.failure?] at hf
      | some v =>
        simp only [Outcome.value?_one]
        rfl
    | d :: e :: es, _ => rfl

/-- The positions of the elements that a filter keeps, in ascending order. -/
def positions (mode : Comparison) (field literal : String) (elements : List Value) : List Nat :=
  (List.range elements.length).filter fun i =>
    keeps mode field literal (elements[i]?.getD .absent)

theorem positions_sorted (mode : Comparison) (field literal : String) (elements : List Value) :
    (positions mode field literal elements).Pairwise (· < ·) :=
  List.pairwise_lt_range.filter _

theorem mem_positions_iff {mode : Comparison} {field literal : String} {elements : List Value}
    {i : Nat} : i ∈ positions mode field literal elements ↔
      ∃ e, elements[i]? = some e ∧ e.isAbsent = false ∧
        ∃ c, e.field? field = some c ∧ mode.holds c literal = true := by
  rw [positions, List.mem_filter, List.mem_range, keeps_eq_true_iff]
  constructor
  · intro ⟨hi, hkeeps⟩
    rw [List.getElem?_eq_getElem hi] at hkeeps
    exact ⟨elements[i], List.getElem?_eq_getElem hi, hkeeps⟩
  · intro ⟨e, he, hkeeps⟩
    obtain ⟨hi, _⟩ := List.getElem?_eq_some_iff.mp he
    rw [he]
    exact ⟨hi, hkeeps⟩

theorem filter_eq_map_positions (mode : Comparison) (field literal : String)
    (elements : List Value) :
    elements.filter (keeps mode field literal) =
      (positions mode field literal elements).map fun i => elements[i]?.getD .absent := by
  have hrange : elements = (List.range elements.length).map fun i => elements[i]?.getD .absent := by
    apply List.ext_getElem
    · simp
    · intro i hi _
      simp [hi]
  conv_lhs => rw [hrange]
  rw [List.filter_map]
  rfl

/-- A filter on a value gathers what its result field is on the elements that it keeps. -/
theorem outcome_eq_gather {v : Value} {elements : List Value} (h : v.elements? = some elements)
    (mode : Comparison) (field literal result : String) :
    (filterElements mode v field literal result).outcome =
      Outcome.gather ((positions mode field literal elements).map fun i =>
        Path.resolve mode (elements[i]?.getD .absent) ⟨[.field result]⟩) := by
  have hpresent : ∀ e ∈ elements.filter (keeps mode field literal), e.isAbsent = false := by
    intro e he
    exact (keeps_eq_true_iff.mp (List.mem_filter.mp he).2).1
  rw [outcome_filterElements h, map_collapse_project mode result hpresent,
    filter_eq_map_positions, List.map_map]
  rfl

end Filter

/--
A filter on a sequence gathers what the paths through the positions of the kept elements lead to.
An element is kept when it is there and its field holds the literal.
-/
theorem resolve_filter_eq_gather (mode : Comparison) (root : Value) (front : List Segment)
    (hfree : ∀ s ∈ front, s.isFilter = false) (name field literal result : String)
    (v : Value) (hv : Path.resolve mode root ⟨front ++ [.field name]⟩ = .ok (some (.one v)))
    (elements : List Value) (helements : v.elements? = some elements)
    (hlength : elements.length ≤ Numeral.maxPosition)
    (kept : List Nat) (hsorted : kept.Pairwise (· < ·))
    (hkept : ∀ i, i ∈ kept ↔ ∃ e, elements[i]? = some e ∧ e.isAbsent = false ∧
      ∃ c, e.field? field = some c ∧ mode.holds c literal = true) :
    let through (i : Nat) := Path.resolve mode root
      ⟨front ++ [.key name (String.ofList (Numeral.digits i)), .field result]⟩
    (∀ i ∈ kept, ∀ vs, through i ≠ .ok (some (.many vs))) ∧
      Path.resolve mode root ⟨front ++ [.filter name field literal result]⟩ =
        Outcome.gather (kept.map through) := by
  intro through
  rw [Path.resolve_append hfree (List.cons_ne_nil _ _)] at hv
  obtain ⟨owner, howner, hfield⟩ := Outcome.andThen_eq_one hv
  obtain ⟨hpresent, hfield, hthere⟩ := Path.resolve_field_eq_one hfield
  have hpositions : kept = Filter.positions mode field literal elements := by
    apply hsorted.eq_of_mem_iff (Filter.positions_sorted _ _ _ _)
    intro i
    rw [hkept, Filter.mem_positions_iff]
  have hthrough : ∀ i ∈ kept,
      through i = Path.resolve mode (elements[i]?.getD .absent) ⟨[.field result]⟩ := by
    intro i hi
    obtain ⟨e, he, _⟩ := (hkept i).mp hi
    obtain ⟨hlt, _⟩ := List.getElem?_eq_some_iff.mp he
    have hlookup := Value.lookup_digits helements (by omega) he
    show Path.resolve mode root ⟨front ++ [.key name _, .field result]⟩ = _
    rw [Path.resolve_append_of_one hfree (List.cons_ne_nil _ _) howner, he]
    exact Path.resolve_key hpresent hfield hthere hlookup mode _
  constructor
  · intro i hi
    rw [hthrough i hi]
    refine Path.resolve_ne_many ?_ mode _
    simp [Segment.field, Segment.isFilter, Clause.isFilter]
  · rw [Path.resolve_append_of_one hfree (List.cons_ne_nil _ _) howner,
      Path.resolve_filter hpresent hfield hthere,
      Filter.outcome_eq_gather helements, ← hpositions, List.map_congr_left hthrough]

theorem resolve_filter_eq_gather_absent :
    let element (fields : List (String × Value)) : Value :=
      .record "Element" (("k", .text .owned "a") :: fields)
    let elements : List Value :=
      [.absent, element [("v", .boolean true)], .record "Element" [], element [("v", .absent)]]
    let root : Value := .record "Root" [("xs", .sequence .deque elements)]
    Path.resolve .text root ⟨[] ++ [.filter "xs" "k" "a" "v"]⟩ =
      .ok (some (.many [some (.boolean true), none])) := by
  intro element elements root
  have hvalue : Path.resolve .text root ⟨[] ++ [.field "xs"]⟩ =
      .ok (some (.one (.sequence .deque elements))) := by
    unfold root elements element
    rfl
  have hpositions : Filter.positions .text "k" "a" elements = [1, 3] := by
    unfold elements element
    rfl
  have hlength : elements.length ≤ Numeral.maxPosition := by
    simp [elements, Numeral.maxPosition]
  obtain ⟨_, hgather⟩ := resolve_filter_eq_gather .text root [] (by simp) "xs" "k" "a" "v"
    (.sequence .deque elements) hvalue elements rfl hlength [1, 3] (by decide)
    fun i => hpositions ▸ Filter.mem_positions_iff
  rw [hgather]
  unfold root elements element
  rfl

end ObjectPath
