import ObjectPath.Proofs.Position
import ObjectPath.Proofs.Value.Snapshot

/-! The tokens that select the elements of a sequence: for each position, its decimal numeral. -/
namespace ObjectPath.Value

variable {v : Value} {elements : List Value}

theorem item?_eq_some_iff {items : List Value} (hlength : items.length ≤ Numeral.maxPosition)
    {token : String} {e : Value} :
    item? items token = some e ↔ ∃ i : Nat, items[i]? = some e ∧ token = i.repr := by
  have hrepr : ∀ i : Nat, token = i.repr ↔ token.toList = Numeral.digits i := by
    intro i
    rw [← String.toList_inj, Nat.toList_repr, Numeral.digits]
  unfold item?
  rw [Option.bind_eq_some_iff]
  constructor
  · rintro ⟨i, hi, he⟩
    exact ⟨i, he, (hrepr i).mpr (Numeral.position?_eq_some_iff.mp hi).2⟩
  · rintro ⟨i, he, htoken⟩
    obtain ⟨hlt, _⟩ := List.getElem?_eq_some_iff.mp he
    have hi : i ≤ Numeral.maxPosition := by omega
    exact ⟨i, Numeral.position?_eq_some_iff.mpr ⟨hi, (hrepr i).mp htoken⟩, he⟩

theorem lookup_eq_found_iff (h : v.elements? = some elements)
    (hlength : elements.length ≤ Numeral.maxPosition) {token : String} {e : Value} :
    v.lookup token = .found e ↔ ∃ i : Nat, elements[i]? = some e ∧ token = i.repr := by
  rw [lookup_eq_item? h, Lookup.ofOption_eq_found_iff, item?_eq_some_iff hlength]

theorem lookup_eq_missing_iff (h : v.elements? = some elements)
    (hlength : elements.length ≤ Numeral.maxPosition) {token : String} :
    v.lookup token = .missing ↔ ∀ i < elements.length, token ≠ i.repr := by
  rw [lookup_eq_item? h, Lookup.ofOption_eq_missing_iff]
  constructor
  · intro hmissing i hi htoken
    have hat : item? elements token = some elements[i] :=
      (item?_eq_some_iff hlength).mpr ⟨i, List.getElem?_eq_getElem hi, htoken⟩
    rw [hmissing] at hat
    simp at hat
  · intro hother
    apply Option.eq_none_iff_forall_ne_some.mpr
    intro e he
    obtain ⟨i, hi, htoken⟩ := (item?_eq_some_iff hlength).mp he
    obtain ⟨hlt, _⟩ := List.getElem?_eq_some_iff.mp hi
    exact hother i hlt htoken

theorem snapshot_of_elements? (h : v.elements? = some elements) :
    v.snapshot = .array (elements.map snapshot) := by
  fun_induction elements? v with
  | case1 items =>
    rw [← Option.some.inj h, List.map_map]
    exact congrArg Json.array (List.map_id items).symm
  | case2 layer v ih => exact ih h
  | case3 kind items =>
    rw [← Option.some.inj h, ← itemSnapshots_eq]
    rfl
  | case4 v => simp at h

/--
Whatever holds a sequence, and in whatever layers: a token selects an element exactly when it is
the decimal numeral of the position of that element. All other tokens are missing, numerals beyond
the last position among them. An element at one position has one token, and the snapshot shows the
elements in their order.
-/
theorem lookup_numerals (h : v.elements? = some elements)
    (hlength : elements.length ≤ Numeral.maxPosition) :
    (∀ token e, v.lookup token = .found e ↔ ∃ i : Nat, elements[i]? = some e ∧ token = i.repr) ∧
    (∀ token, v.lookup token = .missing ↔ ∀ i < elements.length, token ≠ i.repr) ∧
    (∀ token, v.lookup token ≠ .unsupported) ∧
    (∀ e, (∀ i j : Nat, elements[i]? = some e → elements[j]? = some e → i = j) →
      ∀ token token', v.lookup token = .found e → v.lookup token' = .found e → token = token') ∧
    v.snapshot = .array (elements.map snapshot) := by
  refine ⟨fun _ _ => lookup_eq_found_iff h hlength, fun _ => lookup_eq_missing_iff h hlength,
    ?_, ?_, snapshot_of_elements? h⟩
  · intro token
    rw [lookup_eq_item? h]
    exact Lookup.ofOption_ne_unsupported _
  · intro e honce token token' htoken htoken'
    obtain ⟨i, hi, hrepr⟩ := (lookup_eq_found_iff h hlength).mp htoken
    obtain ⟨j, hj, hrepr'⟩ := (lookup_eq_found_iff h hlength).mp htoken'
    rw [hrepr, hrepr', honce i j hi hj]

theorem lookup_numerals_wrapped :
    let v : Value := .wrapped .option (.wrapped .box (.sequence .deque [.boolean true, .absent]))
    v.lookup "1" = .found .absent ∧ v.lookup "01" = .missing ∧ v.lookup "+1" = .missing ∧
      v.lookup "18446744073709551617" = .missing ∧
      (∀ token, v.lookup token = .found .absent → token = "1") ∧
      v.snapshot = .array [.bool true, .null] := by
  intro v
  have helements : v.elements? = some [.boolean true, .absent] := rfl
  have hlength : [Value.boolean true, .absent].length ≤ Numeral.maxPosition := by decide
  obtain ⟨hfound, hmissing, _, honce, hsnapshot⟩ := lookup_numerals helements hlength
  have hone : v.lookup "1" = .found .absent := (hfound "1" _).mpr ⟨1, rfl, rfl⟩
  refine ⟨hone, (hmissing "01").mpr (by decide), (hmissing "+1").mpr (by decide),
    (hmissing "18446744073709551617").mpr (by decide), ?_, hsnapshot⟩
  intro token htoken
  refine honce .absent ?_ token "1" htoken hone
  have hlast : ∀ i : Nat, [Value.boolean true, .absent][i]? = some .absent → i = 1 := by
    intro i hi
    match i with
    | 0 => simp at hi
    | 1 => rfl
    | i + 2 => simp at hi
  intro i j hi hj
  rw [hlast i hi, hlast j hj]

end ObjectPath.Value
