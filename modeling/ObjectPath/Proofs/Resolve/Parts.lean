import ObjectPath.Proofs.Json.RoundTrip
import ObjectPath.Proofs.Resolve.Simulation

/-! A path leads from a document to parts of it. -/
namespace ObjectPath

namespace Json

/-- The parts of a document are itself, and what their arrays and objects hold. -/
inductive IsPart (j : Json) : Json → Prop
  | self : IsPart j j
  | item {items : List Json} (h : IsPart j (array items)) {x : Json} (hx : x ∈ items) : IsPart j x
  | member {members : List (String × Json)} (h : IsPart j (object members)) {m : String × Json}
    (hm : m ∈ members) : IsPart j m.2

theorem Fits.of_isPart {depth : Nat} {j k : Json} (h : Fits depth j) (hk : IsPart j k) :
    Fits depth k := by
  induction hk with
  | self => exact h
  | item _ hx ih =>
    cases ih with
    | scalar hscalar => exact absurd hscalar Bool.false_ne_true
    | array hitems => exact (hitems _ hx).mono
  | member _ hm ih =>
    cases ih with
    | scalar hscalar => exact absurd hscalar Bool.false_ne_true
    | object _ hmembers => exact (hmembers _ hm).mono

theorem FloatFree.of_isPart {j k : Json} (h : FloatFree j) (hk : IsPart j k) : FloatFree k := by
  induction hk with
  | self => exact h
  | item _ hx ih =>
    cases ih with
    | array hitems => exact hitems _ hx
  | member _ hm ih =>
    cases ih with
    | object hmembers => exact hmembers _ hm

end Json

namespace Value

def IsPartOf (j : Json) (v : Value) : Prop := ∃ k, v = json k ∧ j.IsPart k

theorem mem_of_item? {items : List Value} {token : String} {v : Value}
    (h : item? items token = some v) : v ∈ items := by
  obtain ⟨i, -, hi⟩ := Option.bind_eq_some_iff.mp h
  exact List.mem_of_getElem? hi

/-- Each step of a path goes from a part of a document to another one. -/
theorem inherited_isPartOf (j : Json) : Inherited (IsPartOf j) := by
  have hmember {members : List (String × Json)} (hk : j.IsPart (.object members)) {key : String}
      {w : Value} (hw : (Entries.find? key members).map json = some w) : IsPartOf j w := by
    obtain ⟨x, hx, rfl⟩ := Option.map_eq_some_iff.mp hw
    exact ⟨x, rfl, hk.member (Entries.mem_of_find? hx)⟩
  have hitem {items : List Json} (hk : j.IsPart (.array items)) {w : Value}
      (hw : w ∈ items.map json) : IsPartOf j w := by
    obtain ⟨x, hx, rfl⟩ := List.mem_map.mp hw
    exact ⟨x, rfl, hk.item hx⟩
  constructor
  case field? =>
    rintro v w name ⟨k, rfl, hk⟩ hw
    cases k with
    | object members => exact hmember hk hw
    | _ => simp [field?] at hw
  case lookup =>
    rintro v w token ⟨k, rfl, hk⟩ hw
    cases k with
    | object members => exact hmember hk (Lookup.ofOption_eq_found_iff.mp hw)
    | array items => exact hitem hk (mem_of_item? (Lookup.ofOption_eq_found_iff.mp hw))
    | _ => simp [lookup] at hw
  case elements? =>
    rintro v items ⟨k, rfl, hk⟩ hitems w hw
    cases k with
    | array items =>
      obtain rfl := Option.some.inj hitems
      exact hitem hk hw
    | _ => simp [elements?] at hitems

end Value

theorem Path.isPart_of_resolve {p : Path} {mode : Comparison} {j : Json} {v : Value}
    (h : p.resolve mode (.json j) = .ok (some (.one v))) : ∃ k, v = .json k ∧ j.IsPart k := by
  have hsim : Simulation p.segments mode mode False Eq _ :=
    (Value.inherited_isPartOf j).simulation fun _ _ _ _ _ _ _ _ => rfl
  have hrelated := hsim.related ⟨rfl, j, rfl, .self⟩
  rw [h] at hrelated
  cases hrelated with
  | one hv => exact hv.2

end ObjectPath
