import ObjectPath.Proofs.Resolve.Simulation
import ObjectPath.Proofs.Value.Layers

/-! Layers around values, at any depth, make no difference to what a path leads to. -/
namespace ObjectPath

namespace Value

/-- A change of values that no one notices: changed values show the same, and changed parts. -/
structure Unnoticed (f : Value → Value) : Prop where
  typeName : ∀ v, (f v).typeName = v.typeName
  isAbsent : ∀ v, (f v).isAbsent = v.isAbsent
  text? : ∀ v, (f v).text? = v.text?
  snapshot : ∀ v, (f v).snapshot = v.snapshot
  field? : ∀ name v, (f v).field? name = (v.field? name).map f
  lookup : ∀ token v, (f v).lookup token = (v.lookup token).map f
  elements? : ∀ v, (f v).elements? = v.elements?.map (List.map f)

theorem unnoticed_strip : Unnoticed strip where
  typeName := typeName_strip
  isAbsent := isAbsent_strip
  text? := text?_strip
  snapshot := snapshot_strip
  field? := field?_strip
  lookup := lookup_strip
  elements? := elements?_strip

theorem unnoticed_id : Unnoticed id where
  typeName _ := rfl
  isAbsent _ := rfl
  text? _ := rfl
  snapshot _ := rfl
  field? _ _ := by
    rw [Option.map_id]
    rfl
  lookup token v := by
    show v.lookup token = (v.lookup token).map id
    cases v.lookup token <;> rfl
  elements? _ := by
    rw [List.map_id_fun, Option.map_id]
    rfl

theorem rel_of_map_eq {α β γ : Type} {g : α → γ} {h : β → γ} {R : α → β → Prop}
    (hR : ∀ a b, g a = h b → R a b) {a? : Option α} {b? : Option β} (heq : a?.map g = b?.map h) :
    Option.Rel R a? b? := by
  cases a? with
  | none =>
    cases b? with
    | none => exact .none
    | some b => simp at heq
  | some a =>
    cases b? with
    | none => simp at heq
    | some b => exact .some (hR a b (Option.some.inj heq))

variable {g h : Value → Value}

theorem forall₂_of_map_eq (vs ws : List Value) (heq : vs.map g = ws.map h) :
    List.Forall₂ (fun v w => g v = h w) vs ws := by
  have himages : List.Forall₂ Eq (vs.map g) (ws.map h) := by
    rw [List.forall₂_eq_eq_eq]
    exact heq
  rwa [List.forall₂_map_left_iff, List.forall₂_map_right_iff] at himages

theorem related_of_map_eq {a b : Lookup} (heq : a.map g = b.map h) :
    Lookup.Related (fun v w => g v = h w) a b := by
  cases a <;> cases b <;> simp only [Lookup.map, Lookup.found.injEq, reduceCtorEq] at heq
  · exact .found heq
  · exact .missing
  · exact .unsupported

/-- No step of a path tells two values that changes which no one notices make the same. -/
theorem simulation_of_unnoticed (hg : Unnoticed g) (hh : Unnoticed h) (path : List Segment)
    (mode : Comparison) : Simulation path mode mode False Eq fun v w => g v = h w where
  typeName {v w} heq := by rw [← hg.typeName v, heq, hh.typeName]
  isAbsent {v w} heq := by rw [← hg.isAbsent v, heq, hh.isAbsent]
  field? {v w} heq _ _ name _ := by
    apply rel_of_map_eq fun _ _ hab => hab
    rw [← hg.field?, heq, hh.field?]
  lookup {v w} heq _ _ token _ := by
    right
    apply related_of_map_eq
    rw [← hg.lookup, heq, hh.lookup]
  elements? {v w} heq := by
    apply rel_of_map_eq forall₂_of_map_eq
    rw [← hg.elements?, heq, hh.elements?]
  holds {v w} heq _ _ _ literal _ _ := by
    cases mode with
    | text => rw [Comparison.holds, Comparison.holds, ← hg.text? v, heq, hh.text?]
    | typed => rw [Comparison.holds, Comparison.holds, ← hg.snapshot v, heq, hh.snapshot]

theorem related_of_unnoticed (hg : Unnoticed g) (hh : Unnoticed h) (mode : Comparison) (p : Path)
    {v w : Value} (heq : g v = h w) :
    Outcome.Related Eq (fun a b => g a = h b) (p.resolve mode v) (p.resolve mode w) :=
  (simulation_of_unnoticed hg hh p.segments mode).related heq

end Value

/--
A path leads to the same on a value and on the value without layers, but for the layers of what is
found. Hence two values that differ in layers only, at whatever depth, cannot be told apart.
-/
theorem resolve_strip (mode : Comparison) (v : Value) (p : Path) :
    v.strip.IsBare ∧ Value.Unnoticed Value.strip ∧
    p.resolve mode v.strip = (p.resolve mode v).map (Option.map (Found.map Value.strip)) ∧
    ∀ w : Value, v.strip = w.strip →
      Outcome.Related Eq (fun a b => a.strip = b.strip) (p.resolve mode v) (p.resolve mode w) := by
  have hstrip := Value.unnoticed_strip
  refine ⟨v.isBare_strip, hstrip, ?_, ?_⟩
  · have hself : v.strip = id v.strip := rfl
    have hrelated := Value.related_of_unnoticed hstrip Value.unnoticed_id mode p hself
    exact hrelated.eq_map fun a b hab => hab.symm
  · intro w hw
    exact Value.related_of_unnoticed hstrip hstrip mode p hw

theorem resolve_strip_nested :
    let item (tag : Value) : Value := .record "Item" [("k", .text .owned "a"), ("tag", tag)]
    let tags (v : Value) : Value := .record "Root" [("tags", v)]
    let v : Value := tags (.wrapped .box (.sequence .vector
      [item (.wrapped .option .absent), .wrapped .counted (item (.boolean true))]))
    let w : Value := .wrapped .reference (tags (.sequence .vector
      [item .absent, item (.wrapped .option (.wrapped .box (.boolean true)))]))
    let p : Path := ⟨[.filter "tags" "k" "a" "tag"]⟩
    p.resolve .typed v = .ok (some (.many [none, some (.boolean true)])) ∧
      Outcome.Related Eq (fun a b => a.strip = b.strip) (p.resolve .typed v)
        (p.resolve .typed w) := by
  intro item tags v w p
  have hfound : p.resolve .typed v = .ok (some (.many [none, some (.boolean true)])) := by
    unfold p v tags item
    rfl
  have hstrip : v.strip = w.strip := rfl
  obtain ⟨_, _, _, halike⟩ := resolve_strip .typed v p
  exact ⟨hfound, halike w hstrip⟩

end ObjectPath
