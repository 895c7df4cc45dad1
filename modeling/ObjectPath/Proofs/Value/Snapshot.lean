import ObjectPath.Proofs.Entries
import ObjectPath.Proofs.Value.Key
import ObjectPath.Value.Access
import ObjectPath.Value.Snapshot

/-! Snapshots of containers: what stands in them under the keys of the container. -/
namespace ObjectPath

theorem MapKind.arrange_perm {α : Type} (kind : MapKind) (entries : List (Key × α)) :
    (kind.arrange entries).Perm entries := by
  cases kind with
  | hashed => exact List.mergeSort_perm _ _
  | sorted => exact List.mergeSort_perm _ _
  | inserted => exact .refl _

/-- The order of entries does not depend on their values. -/
theorem MapKind.arrange_map {α β : Type} (kind : MapKind) (f : α → β) (entries : List (Key × α)) :
    kind.arrange (entries.map fun e => (e.1, f e.2)) =
      (kind.arrange entries).map fun e => (e.1, f e.2) := by
  cases kind with
  | hashed =>
    refine (List.map_mergeSort ?_).symm
    intro _ _ _ _
    rfl
  | sorted =>
    refine (List.map_mergeSort ?_).symm
    intro _ _ _ _
    rfl
  | inserted => rfl

namespace Value

theorem itemSnapshots_eq (items : List Value) : itemSnapshots items = items.map snapshot := by
  induction items with
  | nil => rfl
  | cons v vs ih => rw [itemSnapshots, ih, List.map_cons]

theorem entrySnapshots_eq (entries : List (Key × Value)) :
    entrySnapshots entries = entries.map fun e => (e.1, e.2.snapshot) := by
  induction entries with
  | nil => rfl
  | cons e es ih => rw [entrySnapshots, ih, List.map_cons]

theorem fieldSnapshots_eq (fields : List (String × Value)) :
    fieldSnapshots fields = fields.map fun f => (f.1, f.2.snapshot) := by
  induction fields with
  | nil => rfl
  | cons f fs ih => rw [fieldSnapshots, ih, List.map_cons]

def members (kind : MapKind) (entries : List (Key × Value)) : List (String × Json) :=
  Entries.ofList ((kind.arrange (entrySnapshots entries)).map fun e => (e.1.label, e.2))

/-- A map shows one member for each of its entries, under the label of the key. -/
theorem members_eq {keyType : KeyType} {entries : List (Key × Value)}
    (htype : ∀ e ∈ entries, e.1.type = keyType) (hnodup : (entries.map Prod.fst).Nodup)
    (kind : MapKind) :
    members kind entries = (kind.arrange entries).map fun e => (e.1.label, e.2.snapshot) := by
  have hlabels :
      (((kind.arrange entries).map fun e => (e.1.label, e.2.snapshot)).map Prod.fst).Nodup := by
    rw [List.map_map]
    exact ((kind.arrange_perm entries).map _).nodup_iff.mpr (Key.nodup_labels htype hnodup)
  rw [members, entrySnapshots_eq, MapKind.arrange_map, List.map_map]
  exact Entries.ofList_of_nodup hlabels

/-- The member under the label of a key is the snapshot of what the key selects. -/
theorem find?_members {keyType : KeyType} {entries : List (Key × Value)}
    (htype : ∀ e ∈ entries, e.1.type = keyType) (hnodup : (entries.map Prod.fst).Nodup)
    (kind : MapKind) {key : Key} (hkey : key.type = keyType) :
    Entries.find? key.label (members kind entries) = (Entries.find? key entries).map snapshot := by
  have hperm : (kind.arrange entries).Perm entries := kind.arrange_perm entries
  have hinj : ∀ e ∈ kind.arrange entries, e.1.label = key.label → e.1 = key := by
    intro e he hlabel
    exact Key.eq_of_label ((htype e (hperm.mem_iff.mp he)).trans hkey.symm) hlabel
  calc
    Entries.find? key.label (members kind entries)
      = Entries.find? key.label ((kind.arrange entries).map fun e => (e.1.label, e.2.snapshot)) := by
        rw [members_eq htype hnodup]
    _ = (Entries.find? key (kind.arrange entries)).map snapshot :=
        Entries.find?_map Key.label snapshot hinj
    _ = (Entries.find? key entries).map snapshot := by
        rw [Entries.find?_perm hperm.symm hnodup]

/-- Of the fields of one name, the last is shown. -/
theorem find?_fieldSnapshots_last (fields : List (String × Value)) (name : String) :
    Entries.find? name (Entries.ofList (fieldSnapshots fields)) =
      (Entries.find? name fields.reverse).map snapshot := by
  rw [Entries.find?_ofList, fieldSnapshots_eq, ← List.map_reverse]
  exact Entries.find?_map (fun n => n) snapshot fun f _ h => h

/-- The member under the name of a field is the snapshot of the field. -/
theorem find?_fieldSnapshots {fields : List (String × Value)}
    (hnodup : (fields.map Prod.fst).Nodup) (name : String) :
    Entries.find? name (Entries.ofList (fieldSnapshots fields)) =
      (Entries.find? name fields).map snapshot := by
  rw [find?_fieldSnapshots_last, Entries.find?_perm fields.reverse_perm.symm hnodup]

end Value

end ObjectPath
