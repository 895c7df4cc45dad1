import Mathlib.Data.List.Nodup
import ObjectPath.Value.Key

/-! Keys of one type are told apart by their labels. -/
namespace ObjectPath

namespace Numeral

theorem digits_injective : Function.Injective digits := by
  intro m n h
  have hvalue := congrArg value h
  rwa [value_digits, value_digits] at hvalue

theorem minus_not_mem_digits (n : Nat) : '-' ∉ digits n := by
  intro hmem
  have hdigit := isDigit_of_mem_digits hmem
  exact absurd hdigit (by decide)

theorem intDigits_injective : Function.Injective intDigits := by
  intro i j h
  by_cases hi : i < 0 <;> by_cases hj : j < 0 <;> simp only [intDigits, hi, hj, if_true, if_false] at h
  · have habs := digits_injective (List.cons.inj h).2
    omega
  · exact absurd (h ▸ List.mem_cons_self) (minus_not_mem_digits _)
  · exact absurd (h.symm ▸ List.mem_cons_self) (minus_not_mem_digits _)
  · have habs := digits_injective h
    omega

end Numeral

theorem Integer.eq_of_value {m n : Integer} (htype : m.type = n.type) (hvalue : m.value = n.value) :
    m = n := by
  obtain ⟨type, value, _⟩ := m
  obtain ⟨type', value', _⟩ := n
  subst htype
  subst hvalue
  rfl

theorem Integer.eq_of_render {m n : Integer} (htype : m.type = n.type)
    (hrender : m.render = n.render) : m = n := by
  have hchars : m.chars = n.chars := by
    rw [← render_toList, ← render_toList, hrender]
  exact eq_of_value htype (Numeral.intDigits_injective hchars)

theorem Key.eq_of_label {k l : Key} (htype : k.type = l.type) (hlabel : k.label = l.label) :
    k = l := by
  cases k with
  | text s =>
    cases l with
    | text t => exact congrArg Key.text hlabel
    | integer n => exact KeyType.noConfusion htype
  | integer m =>
    cases l with
    | text t => exact KeyType.noConfusion htype
    | integer n => exact congrArg Key.integer (Integer.eq_of_render (KeyType.integer.inj htype) hlabel)

/-- Distinct keys of one type have distinct labels. -/
theorem Key.nodup_labels {α : Type} {keyType : KeyType} {entries : List (Key × α)}
    (htype : ∀ e ∈ entries, e.1.type = keyType) (hnodup : (entries.map Prod.fst).Nodup) :
    (entries.map fun e => e.1.label).Nodup := by
  have hinj : ∀ k ∈ entries.map Prod.fst, ∀ l ∈ entries.map Prod.fst, k.label = l.label → k = l := by
    intro k hk l hl hlabel
    obtain ⟨d, hd, rfl⟩ := List.mem_map.mp hk
    obtain ⟨e, he, rfl⟩ := List.mem_map.mp hl
    exact Key.eq_of_label ((htype d hd).trans (htype e he).symm) hlabel
  have hlabels := hnodup.map_on hinj
  rwa [List.map_map] at hlabels

end ObjectPath
