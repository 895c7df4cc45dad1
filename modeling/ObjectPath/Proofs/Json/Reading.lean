import ObjectPath.Json.Reader
import ObjectPath.Proofs.Entries

/-! What the reader of documents gives: keys are distinct, and nesting is bounded. -/
namespace ObjectPath.Json

/-- The keys of each object are distinct, and arrays and objects are nested up to a depth. -/
inductive Fits : Nat → Json → Prop
  | scalar {depth : Nat} {j : Json} (h : j.isScalar = true) : Fits depth j
  | array {depth : Nat} {items : List Json} (h : ∀ x ∈ items, Fits depth x) :
    Fits (depth + 1) (array items)
  | object {depth : Nat} {members : List (String × Json)}
    (hkeys : (members.map Prod.fst).Nodup) (h : ∀ m ∈ members, Fits depth m.2) :
    Fits (depth + 1) (object members)

theorem bind_eq_ok {ε α β : Type} {x : Except ε α} {f : α → Except ε β} {b : β}
    (h : x >>= f = .ok b) : ∃ a, x = .ok a ∧ f a = .ok b := by
  cases x with
  | error e => simp [bind, Except.bind] at h
  | ok a => exact ⟨a, rfl, h⟩

theorem map_eq_ok {ε α β : Type} {x : Except ε α} {f : α → β} {b : β}
    (h : x.map f = .ok b) : ∃ a, x = .ok a ∧ f a = b := by
  cases x with
  | error e => simp [Except.map] at h
  | ok a => exact ⟨a, rfl, Except.ok.inj h⟩

section Containers

variable {value : Reader Json} {P : Json → Prop}

theorem forall_of_readMoreItems (hvalue : ∀ cs x rest, value cs = .ok (x, rest) → P x) {count : Nat}
    {cs rest : List Char} {xs : List Json} (h : readMoreItems value count cs = .ok (xs, rest)) :
    ∀ x ∈ xs, P x := by
  induction count generalizing cs xs rest with
  | zero => simp [readMoreItems] at h
  | succ count ih =>
    unfold readMoreItems at h
    split at h
    · simp at h
    · obtain ⟨rfl, -⟩ := Prod.mk.inj (Except.ok.inj h)
      simp
    · split at h
      · simp at h
      · simp at h
      · obtain ⟨⟨x, more⟩, hx, h⟩ := bind_eq_ok h
        obtain ⟨⟨ys, tail⟩, hys, h⟩ := bind_eq_ok h
        obtain ⟨rfl, -⟩ := Prod.mk.inj (Except.ok.inj h)
        exact List.forall_mem_cons.mpr ⟨hvalue _ x more hx, ih hys⟩
    · simp at h

theorem forall_of_readItems (hvalue : ∀ cs x rest, value cs = .ok (x, rest) → P x)
    {cs rest : List Char} {xs : List Json} (h : readItems value cs = .ok (xs, rest)) :
    ∀ x ∈ xs, P x := by
  unfold readItems at h
  split at h
  · simp at h
  · obtain ⟨rfl, -⟩ := Prod.mk.inj (Except.ok.inj h)
    simp
  · obtain ⟨⟨x, more⟩, hx, h⟩ := bind_eq_ok h
    obtain ⟨⟨ys, tail⟩, hys, h⟩ := bind_eq_ok h
    obtain ⟨rfl, -⟩ := Prod.mk.inj (Except.ok.inj h)
    exact List.forall_mem_cons.mpr ⟨hvalue _ x more hx, forall_of_readMoreItems hvalue hys⟩

theorem of_readMember (hvalue : ∀ cs x rest, value cs = .ok (x, rest) → P x) {cs rest : List Char}
    {m : String × Json} (h : readMember value cs = .ok (m, rest)) : P m.2 := by
  unfold readMember at h
  split at h
  · obtain ⟨⟨key, more⟩, -, h⟩ := bind_eq_ok h
    simp only at h
    split at h
    · simp at h
    · obtain ⟨⟨x, tail⟩, hx, h⟩ := bind_eq_ok h
      obtain ⟨rfl, -⟩ := Prod.mk.inj (Except.ok.inj h)
      exact hvalue _ x tail hx
    · simp at h
  · simp at h

theorem forall_of_readMoreMembers (hvalue : ∀ cs x rest, value cs = .ok (x, rest) → P x)
    {count : Nat} {cs rest : List Char} {ms : List (String × Json)}
    (h : readMoreMembers value count cs = .ok (ms, rest)) : ∀ m ∈ ms, P m.2 := by
  induction count generalizing cs ms rest with
  | zero => simp [readMoreMembers] at h
  | succ count ih =>
    unfold readMoreMembers at h
    split at h
    · simp at h
    · obtain ⟨rfl, -⟩ := Prod.mk.inj (Except.ok.inj h)
      simp
    · split at h
      · simp at h
      · simp at h
      · obtain ⟨⟨m, more⟩, hm, h⟩ := bind_eq_ok h
        obtain ⟨⟨ns, tail⟩, hns, h⟩ := bind_eq_ok h
        obtain ⟨rfl, -⟩ := Prod.mk.inj (Except.ok.inj h)
        exact List.forall_mem_cons.mpr ⟨of_readMember hvalue hm, ih hns⟩
    · simp at h

theorem forall_of_readMembers (hvalue : ∀ cs x rest, value cs = .ok (x, rest) → P x)
    {cs rest : List Char} {ms : List (String × Json)} (h : readMembers value cs = .ok (ms, rest)) :
    ∀ m ∈ ms, P m.2 := by
  unfold readMembers at h
  split at h
  · simp at h
  · obtain ⟨rfl, -⟩ := Prod.mk.inj (Except.ok.inj h)
    simp
  · obtain ⟨⟨m, more⟩, hm, h⟩ := bind_eq_ok h
    obtain ⟨⟨ns, tail⟩, hns, h⟩ := bind_eq_ok h
    obtain ⟨rfl, -⟩ := Prod.mk.inj (Except.ok.inj h)
    exact List.forall_mem_cons.mpr
      ⟨of_readMember hvalue hm, forall_of_readMoreMembers hvalue hns⟩

end Containers

theorem eq_of_readWord {j k : Json} {word cs rest : List Char}
    (h : readWord j word cs = .ok (k, rest)) : k = j := by
  induction word generalizing cs with
  | nil => exact (Prod.mk.inj (Except.ok.inj h)).1.symm
  | cons w word ih =>
    cases cs with
    | nil => simp [readWord] at h
    | cons c cs =>
      rw [readWord] at h
      split at h
      · exact ih h
      · simp at h

/-- Arrays and objects are read with one level less than the documents that hold them. -/
theorem fits_of_readValue {depth : Nat} {cs rest : List Char} {j : Json}
    (h : readValue depth cs = .ok (j, rest)) : Fits depth j := by
  unfold readValue at h
  split at h
  · simp at h
  · rw [eq_of_readWord h]
    exact .scalar rfl
  · rw [eq_of_readWord h]
    exact .scalar rfl
  · rw [eq_of_readWord h]
    exact .scalar rfl
  · obtain ⟨⟨n, tail⟩, -, hn⟩ := map_eq_ok h
    obtain ⟨rfl, -⟩ := Prod.mk.inj hn
    exact .scalar rfl
  · obtain ⟨⟨s, tail⟩, -, hs⟩ := map_eq_ok h
    obtain ⟨rfl, -⟩ := Prod.mk.inj hs
    exact .scalar rfl
  · split at h
    · simp at h
    · rename_i depth
      obtain ⟨⟨xs, tail⟩, hread, hxs⟩ := map_eq_ok h
      obtain ⟨rfl, -⟩ := Prod.mk.inj hxs
      exact .array (forall_of_readItems (fun _ _ _ hx => fits_of_readValue hx) hread)
  · split at h
    · simp at h
    · rename_i depth
      obtain ⟨⟨ms, tail⟩, hread, hms⟩ := map_eq_ok h
      obtain ⟨rfl, -⟩ := Prod.mk.inj hms
      have hvalues := forall_of_readMembers (fun _ _ _ hx => fits_of_readValue hx) hread
      exact .object (Entries.nodup_ofList ms) fun m hm => hvalues m (Entries.mem_of_mem_ofList hm)
  · split at h
    · obtain ⟨⟨n, tail⟩, -, hn⟩ := map_eq_ok h
      obtain ⟨rfl, -⟩ := Prod.mk.inj hn
      exact .scalar rfl
    · simp at h
termination_by depth

theorem fits_of_parse {text : String} {j : Json} (h : parse text = .ok j) : Fits maxDepth j := by
  have hread : readDocument text.toList = .ok j := by
    unfold parse at h
    cases hd : readDocument text.toList with
    | error e => simp [hd, Except.mapError] at h
    | ok k => simpa [hd, Except.mapError] using h
  obtain ⟨⟨k, rest⟩, hvalue, hrest⟩ := bind_eq_ok hread
  simp only at hrest
  split at hrest
  · rw [← Except.ok.inj hrest]
    exact fits_of_readValue hvalue
  · simp at hrest

theorem Fits.mono {depth : Nat} {j : Json} (h : Fits depth j) : Fits (depth + 1) j := by
  induction h with
  | scalar h => exact .scalar h
  | array _ ih => exact .array ih
  | object hkeys _ ih => exact .object hkeys ih

end ObjectPath.Json
