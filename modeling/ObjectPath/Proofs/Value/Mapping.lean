import ObjectPath.Proofs.Value.Snapshot
import ObjectPath.Proofs.Value.Token

/-! Maps: what tokens select in them, and the members and their order in snapshots. -/
namespace ObjectPath

namespace Key

/-- The order in which sorted maps show their keys: integers by value, texts as texts. -/
def Before : Key → Key → Prop
  | text s, text t => s < t
  | integer m, integer n => m.value < n.value
  | _, _ => False

theorem le_trans (k l m : Key) (hkl : k.le l = true) (hlm : l.le m = true) : k.le m = true := by
  cases k <;> cases l <;> cases m <;> simp only [le, decide_eq_true_eq, Bool.false_eq_true] at hkl hlm ⊢
  · exact String.le_trans hkl hlm
  · omega

theorem le_total (k l : Key) : (k.le l || l.le k) = true := by
  cases k <;> cases l <;> simp only [le, Bool.or_eq_true, decide_eq_true_eq, Bool.or_true, Bool.true_or]
  · exact String.le_total _ _
  · omega

/-- Among distinct keys of one type, the order of sorting is that of their values. -/
theorem before_of_le {k l : Key} (htype : k.type = l.type) (hne : k ≠ l) (hle : k.le l = true) :
    k.Before l := by
  cases k with
  | text s =>
    cases l with
    | text t =>
      apply String.not_le.mp
      intro hts
      exact hne (congrArg Key.text (String.le_antisymm (of_decide_eq_true hle) hts))
    | integer n => exact KeyType.noConfusion htype
  | integer m =>
    cases l with
    | text t => exact KeyType.noConfusion htype
    | integer n =>
      have hvalue : m.value ≠ n.value := by
        intro heq
        exact hne (congrArg Key.integer (Integer.eq_of_value (KeyType.integer.inj htype) heq))
      have hle' : m.value ≤ n.value := of_decide_eq_true hle
      show m.value < n.value
      omega

end Key

/-- Sorted maps show their entries in the order of the keys. -/
theorem MapKind.arrange_sorted {α : Type} {keyType : KeyType} {entries : List (Key × α)}
    (htype : ∀ e ∈ entries, e.1.type = keyType) (hnodup : (entries.map Prod.fst).Nodup) :
    (sorted.arrange entries).Pairwise fun d e => d.1.Before e.1 := by
  have hperm : (sorted.arrange entries).Perm entries := arrange_perm sorted entries
  have hle : (sorted.arrange entries).Pairwise fun d e => d.1.le e.1 = true :=
    List.pairwise_mergeSort (fun c d e => Key.le_trans c.1 d.1 e.1) (fun d e => Key.le_total d.1 e.1) _
  have hne : (sorted.arrange entries).Pairwise fun d e => d.1 ≠ e.1 :=
    List.pairwise_map.mp ((hperm.map Prod.fst).nodup_iff.mpr hnodup)
  refine (hle.and hne).imp_of_mem ?_
  intro d e hd he ⟨hle, hne⟩
  have htypes : d.1.type = e.1.type :=
    (htype d (hperm.mem_iff.mp hd)).trans (htype e (hperm.mem_iff.mp he)).symm
  exact Key.before_of_le htypes hne hle

namespace Value

section

variable {keyType : KeyType} {entries : List (Key × Value)}

/-- A token selects the entry whose key has it. -/
theorem select?_eq_some_iff (htype : ∀ e ∈ entries, e.1.type = keyType)
    (hnodup : (entries.map Prod.fst).Nodup) {token : String} {x : Value} :
    select? keyType entries token = some x ↔ ∃ k, (k, x) ∈ entries ∧ k.HasToken token := by
  rw [select?, Option.bind_eq_some_iff]
  constructor
  · intro ⟨k, hread, hfind⟩
    exact ⟨k, Entries.mem_of_find? hfind, (KeyType.read?_eq_some_iff.mp hread).2⟩
  · intro ⟨k, hmem, htoken⟩
    have hread : keyType.read? token = some k :=
      KeyType.read?_eq_some_iff.mpr ⟨htype _ hmem, htoken⟩
    exact ⟨k, hread, (Entries.find?_eq_some_iff hnodup).mpr hmem⟩

/-- Numerals of one integer select the same, and those of an integer out of range nothing. -/
theorem select?_of_denotes {t : IntegerType} {token : String} {i : Int}
    (h : Numeral.Denotes t.signed token.toList i) (entries : List (Key × Value)) :
    select? (.integer t) entries token =
      if hrange : t.Contains i then Entries.find? (.integer ⟨t, i, hrange⟩) entries else none := by
  rw [select?, KeyType.read?, Integer.read?, Numeral.integer?_eq_some_iff.mpr h]
  by_cases hrange : t.Contains i
  · simp only [dif_pos hrange]
    rfl
  · simp only [dif_neg hrange]
    rfl

theorem field?_snapshot_map (htype : ∀ e ∈ entries, e.1.type = keyType)
    (hnodup : (entries.map Prod.fst).Nodup) (kind : MapKind) {k : Key} {x : Value}
    (hmem : (k, x) ∈ entries) :
    (json (map kind keyType entries).snapshot).field? k.label = some (json x.snapshot) := by
  have hmember : Entries.find? k.label (members kind entries) =
      (Entries.find? k entries).map snapshot :=
    find?_members htype hnodup kind (htype _ hmem)
  rw [(Entries.find?_eq_some_iff hnodup).mpr hmem] at hmember
  exact congrArg (Option.map json) hmember

end

/--
In a map of any kind and key type, whatever was inserted: each entry is selected by the label of
its key, as a field and in brackets, and shown under it. The snapshot has one member for each
entry, in the order of the keys or of their first insertion. A token selects the entry whose key
has it, so that numerals of one integer select the same, and those out of range nothing.
-/
theorem mapOf_in_step (kind : MapKind) {keyType : KeyType} {inserted : List (Key × Value)}
    (htype : ∀ e ∈ inserted, e.1.type = keyType) :
    let entries := Entries.ofList inserted
    let v := mapOf kind keyType inserted
    (∀ k x, (k, x) ∈ entries → v.field? k.label = some x ∧ v.lookup k.label = .found x ∧
      (json v.snapshot).field? k.label = some (json x.snapshot)) ∧
    (∃ shown : List (Key × Value), shown.Perm entries ∧ (shown.map fun e => e.1.label).Nodup ∧
      v.snapshot = .object (shown.map fun e => (e.1.label, e.2.snapshot)) ∧
      (kind = .sorted → shown.Pairwise fun d e => d.1.Before e.1) ∧
      (kind = .inserted → shown.map Prod.fst = (inserted.map Prod.fst).eraseDups)) ∧
    (∀ token x, (v.field? token = some x ↔ ∃ k, (k, x) ∈ entries ∧ k.HasToken token) ∧
      (v.lookup token = .found x ↔ ∃ k, (k, x) ∈ entries ∧ k.HasToken token)) ∧
    ∀ t, keyType = .integer t → ∀ token i, Numeral.Denotes t.signed token.toList i →
      (¬ t.Contains i → v.field? token = none ∧ v.lookup token = .missing) ∧
      ∀ token', Numeral.Denotes t.signed token'.toList i →
        v.field? token' = v.field? token ∧ v.lookup token' = v.lookup token := by
  intro entries v
  have htypes : ∀ e ∈ entries, e.1.type = keyType := fun e he =>
    htype e (Entries.mem_of_mem_ofList he)
  have hnodup : (entries.map Prod.fst).Nodup := Entries.nodup_ofList inserted
  have hlookup : ∀ token, v.lookup token = .ofOption (v.field? token) := fun token => rfl
  have hselect : ∀ token x, v.field? token = some x ↔ ∃ k, (k, x) ∈ entries ∧ k.HasToken token :=
    fun token x => select?_eq_some_iff htypes hnodup
  refine ⟨?_, ⟨kind.arrange entries, kind.arrange_perm entries, ?_, ?_, ?_, ?_⟩, ?_, ?_⟩
  · intro k x hmem
    have hfield : v.field? k.label = some x := (hselect _ x).mpr ⟨k, hmem, k.hasToken_label⟩
    rw [hlookup, hfield]
    exact ⟨rfl, rfl, field?_snapshot_map htypes hnodup kind hmem⟩
  · exact ((kind.arrange_perm entries).map _).nodup_iff.mpr (Key.nodup_labels htypes hnodup)
  · rw [← members_eq htypes hnodup]
    rfl
  · rintro rfl
    exact MapKind.arrange_sorted htypes hnodup
  · rintro rfl
    exact Entries.keys_ofList inserted
  · intro token x
    rw [hlookup, Lookup.ofOption_eq_found_iff]
    exact ⟨hselect token x, hselect token x⟩
  · rintro t rfl token i hdenotes
    have hfield := select?_of_denotes hdenotes entries
    constructor
    · intro hrange
      have hnone : v.field? token = none := hfield.trans (dif_neg hrange)
      rw [hlookup, hnone]
      exact ⟨rfl, rfl⟩
    · intro token' hdenotes'
      have hsame : v.field? token' = v.field? token :=
        (select?_of_denotes hdenotes' entries).trans hfield.symm
      rw [hlookup, hlookup, hsame]
      exact ⟨rfl, rfl⟩

theorem mapOf_in_step_signed :
    let byte (i : Int) (h : IntegerType.Contains ⟨true, .bits8⟩ i) : Key := .integer ⟨_, i, h⟩
    let ten := byte 10 (by decide)
    let least := byte (-128) (by decide)
    let inserted : List (Key × Value) :=
      [(ten, .boolean true), (least, .absent), (ten, .boolean false)]
    let v := mapOf .inserted (.integer ⟨true, .bits8⟩) inserted
    v.field? "+010" = some (.boolean false) ∧ v.lookup "-128" = .found .absent ∧
      v.field? "266" = none ∧
      ∃ shown : List (Key × Value), shown.map Prod.fst = [ten, least] ∧
        v.snapshot = .object (shown.map fun e => (e.1.label, e.2.snapshot)) := by
  intro byte ten least inserted v
  have htype : ∀ e ∈ inserted, e.1.type = .integer ⟨true, .bits8⟩ := by
    simp only [inserted, List.forall_mem_cons]
    exact ⟨rfl, rfl, rfl, by simp⟩
  have hentries : Entries.ofList inserted = [(ten, .boolean false), (least, .absent)] := rfl
  have hten : Numeral.Denotes true "+010".toList 10 :=
    Numeral.integer?_eq_some_iff.mp (by decide)
  have hbeyond : Numeral.Denotes true "266".toList 266 :=
    Numeral.integer?_eq_some_iff.mp (by decide)
  obtain ⟨hentry, ⟨shown, _, _, hsnapshot, _, horder⟩, htoken, hrange⟩ :=
    mapOf_in_step .inserted htype
  refine ⟨(htoken _ _).1.mpr ⟨ten, ?_, hten⟩, (hentry least .absent ?_).2.1,
    ((hrange _ rfl _ _ hbeyond).1 (by decide)).1, shown, ?_, hsnapshot⟩
  · rw [hentries]
    exact List.mem_cons_self
  · rw [hentries]
    exact List.mem_cons_of_mem _ List.mem_cons_self
  · rw [horder rfl]
    decide

end Value

end ObjectPath
