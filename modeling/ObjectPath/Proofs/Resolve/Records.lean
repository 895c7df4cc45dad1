import ObjectPath.Proofs.Resolve.Composition
import ObjectPath.Proofs.Value.Snapshot

/-!
Records, and what their snapshots show of the fields. Of two fields with one name the first is read
and the last is shown, so that both have to have one document.
-/
namespace ObjectPath

namespace Value

theorem snapshot_of_isAbsent {v : Value} (h : v.isAbsent = true) : v.snapshot = .null := by
  fun_induction isAbsent v with
  | case1 => rfl
  | case2 => rfl
  | case3 layer v ih => exact ih h
  | case4 v => exact Bool.noConfusion h

/-- The first and the last field of a name have one document. -/
def ShownAsRead (name : String) (fields : List (String × Value)) : Prop :=
  ∀ x y, Entries.IsFirst name x fields → Entries.IsLast name y fields → x.snapshot = y.snapshot

variable {name : String} {fields : List (String × Value)}

theorem shownAsRead_iff : ShownAsRead name fields ↔
    (Entries.find? name fields).map snapshot = (Entries.find? name fields.reverse).map snapshot := by
  unfold ShownAsRead
  simp only [← Entries.find?_eq_some_iff_isFirst, ← Entries.find?_reverse_eq_some_iff_isLast]
  have hboth := Entries.exists_find?_reverse_iff name fields
  cases hfirst : Entries.find? name fields with
  | none =>
    cases hlast : Entries.find? name fields.reverse with
    | none => simp
    | some y => simp [hfirst, hlast] at hboth
  | some x =>
    cases hlast : Entries.find? name fields.reverse with
    | none => simp [hfirst, hlast] at hboth
    | some y => simp

/-- A name that is given once is shown as it is read, even if other names are repeated. -/
theorem shownAsRead_of_count_le_one (h : (fields.map Prod.fst).count name ≤ 1) :
    ShownAsRead name fields := by
  intro x y hx hy
  have hfirst : (name, x) ∈ fields :=
    Entries.mem_of_find? (Entries.find?_eq_some_iff_isFirst.mpr hx)
  have hlast : (name, y) ∈ fields.reverse :=
    Entries.mem_of_find? (Entries.find?_reverse_eq_some_iff_isLast.mpr hy)
  rw [Entries.eq_of_count_le_one h hfirst (List.mem_reverse.mp hlast)]

end Value

/-- The document of what was found; where nothing was found it is null. -/
def Found.documentOf : Option Found → Json
  | some found => found.snapshot
  | none => .null

theorem Found.documentOf_present? (v : Value) : documentOf (v.present?.map .one) = v.snapshot := by
  unfold Value.present?
  split
  · rename_i habsent
    rw [Value.snapshot_of_isAbsent habsent]
    rfl
  · rfl

/-- Outcomes of reading a field: both report that there is none, or both have one document. -/
inductive Outcome.ReadAlike (name : String) : Outcome → Outcome → Prop
  | missing (t u : String) :
    ReadAlike name (.error (.noSuchField name t)) (.error (.noSuchField name u))
  | found {f? g? : Option Found} (h : Found.documentOf f? = Found.documentOf g?) :
    ReadAlike name (.ok f?) (.ok g?)

/-- Reading a name on two values leads to one document just if their fields of this name have one. -/
theorem readAlike_iff {v w : Value} (hv : v.isAbsent = false) (hw : w.isAbsent = false)
    (mode : Comparison) (name : String) :
    Outcome.ReadAlike name (Path.resolve mode v ⟨[.field name]⟩)
        (Path.resolve mode w ⟨[.field name]⟩) ↔
      (v.field? name).map Value.snapshot = (w.field? name).map Value.snapshot := by
  rw [Path.resolve_field hv, Path.resolve_field hw]
  cases v.field? name with
  | none =>
    cases w.field? name with
    | none => exact iff_of_true (.missing _ _) rfl
    | some y =>
      refine iff_of_false ?_ (by simp)
      intro h
      cases h
  | some x =>
    cases w.field? name with
    | none =>
      refine iff_of_false ?_ (by simp)
      intro h
      cases h
    | some y =>
      have hx := Found.documentOf_present? x
      have hy := Found.documentOf_present? y
      rw [Option.map_some, Option.map_some, Option.some_inj]
      constructor
      · intro h
        cases h with
        | found h => rwa [hx, hy] at h
      · intro h
        apply Outcome.ReadAlike.found
        rw [hx, hy, h]

namespace Value

/--
A record and its snapshot have the same names. Of several fields with one name the first is read and
the last is shown. So the member of a name shows what is read of it, on the record itself as by a
path, just if these two have one document; they do if the name is not repeated.
-/
theorem record_in_step (typeName : String) (fields : List (String × Value)) :
    let v := record typeName fields
    ∃ members : List (String × Json), v.snapshot = .object members ∧
      (members.map Prod.fst).Nodup ∧ ∀ name : String,
        ((∃ x, v.field? name = some x) ↔ ∃ j, (name, j) ∈ members) ∧
        (∀ x, v.field? name = some x ↔ Entries.IsFirst name x fields) ∧
        (∀ j, (name, j) ∈ members ↔ ∃ y, Entries.IsLast name y fields ∧ y.snapshot = j) ∧
        ((∀ x j, v.field? name = some x → (name, j) ∈ members → x.snapshot = j) ↔
          ShownAsRead name fields) ∧
        (∀ mode, Outcome.ReadAlike name (Path.resolve mode v ⟨[.field name]⟩)
          (Path.resolve mode (json v.snapshot) ⟨[.field name]⟩) ↔ ShownAsRead name fields) ∧
        (∀ mode text, Path.parse text = .ok ⟨[.field name]⟩ →
          (Outcome.ReadAlike name (resolve mode v text) (resolve mode (json v.snapshot) text) ↔
            ShownAsRead name fields)) ∧
        ((fields.map Prod.fst).count name ≤ 1 → ShownAsRead name fields) := by
  intro v
  let members := Entries.ofList (fieldSnapshots fields)
  have hnodup : (members.map Prod.fst).Nodup := Entries.nodup_ofList _
  refine ⟨members, rfl, hnodup, ?_⟩
  intro name
  have hfirst : ∀ x, v.field? name = some x ↔ Entries.IsFirst name x fields :=
    fun x => Entries.find?_eq_some_iff_isFirst
  have hmember : Entries.find? name members = (Entries.find? name fields.reverse).map snapshot :=
    find?_fieldSnapshots_last fields name
  have hlast : ∀ j, (name, j) ∈ members ↔ ∃ y, Entries.IsLast name y fields ∧ y.snapshot = j := by
    intro j
    rw [← Entries.find?_eq_some_iff hnodup, hmember, Option.map_eq_some_iff]
    simp only [Entries.find?_reverse_eq_some_iff_isLast]
  have hnames : (∃ x, v.field? name = some x) ↔ ∃ j, (name, j) ∈ members := by
    constructor
    · intro hx
      obtain ⟨y, hy⟩ := (Entries.exists_find?_reverse_iff name fields).mpr hx
      exact ⟨y.snapshot, (hlast _).mpr ⟨y, Entries.find?_reverse_eq_some_iff_isLast.mp hy, rfl⟩⟩
    · rintro ⟨j, hj⟩
      obtain ⟨y, hy, _⟩ := (hlast j).mp hj
      apply (Entries.exists_find?_reverse_iff name fields).mp
      exact ⟨y, Entries.find?_reverse_eq_some_iff_isLast.mpr hy⟩
  have hread : ∀ mode, Outcome.ReadAlike name (Path.resolve mode v ⟨[.field name]⟩)
      (Path.resolve mode (json v.snapshot) ⟨[.field name]⟩) ↔ ShownAsRead name fields := by
    intro mode
    have hshown : (json v.snapshot).field? name = (Entries.find? name members).map json := rfl
    have hsame : snapshot ∘ json = id := rfl
    rw [readAlike_iff rfl rfl, shownAsRead_iff, hshown, Option.map_map, hsame, Option.map_id, id,
      hmember]
    rfl
  refine ⟨hnames, hfirst, hlast, ?_, hread, ?_, shownAsRead_of_count_le_one⟩
  · constructor
    · intro h x y hx hy
      exact h x y.snapshot ((hfirst x).mpr hx) ((hlast _).mpr ⟨y, hy, rfl⟩)
    · intro h x j hx hj
      obtain ⟨y, hy, rfl⟩ := (hlast j).mp hj
      exact h x y ((hfirst x).mp hx) hy
  · intro mode text htext
    rw [resolve_eq_resolve_path htext, resolve_eq_resolve_path htext]
    exact hread mode

theorem record_in_step_repeated :
    let seven : Value := .integer ⟨⟨true, .bits8⟩, 7, by decide⟩
    let fields : List (String × Value) :=
      [("n", seven), ("", .double .undefined), ("n", .wrapped .box seven)]
    let v := record "Pair" fields
    (Path.parse "n" = .ok ⟨[.field "n"]⟩ ∧ ShownAsRead "n" fields ∧
      Outcome.ReadAlike "n" (resolve .text v "n") (resolve .text (json v.snapshot) "n")) ∧
    (Path.parse "" = .ok ⟨[.field ""]⟩ ∧ (fields.map Prod.fst).count "" ≤ 1 ∧
      Outcome.ReadAlike "" (resolve .text v "") (resolve .text (json v.snapshot) "")) := by
  intro seven fields v
  obtain ⟨_, _, _, hagree⟩ := record_in_step "Pair" fields
  obtain ⟨_, _, _, _, _, hn, _⟩ := hagree "n"
  obtain ⟨_, _, _, _, _, hempty, honce⟩ := hagree ""
  have hnparse : Path.parse "n" = .ok ⟨[.field "n"]⟩ :=
    Path.parse_of_render (by decide) (by decide)
  have heparse : Path.parse "" = .ok ⟨[.field ""]⟩ := Path.parse_of_render (by decide) (by decide)
  have hshown : ShownAsRead "n" fields := shownAsRead_iff.mpr rfl
  have hcount : (fields.map Prod.fst).count "" ≤ 1 := by decide
  exact ⟨⟨hnparse, hshown, (hn .text "n" hnparse).mpr hshown⟩,
    heparse, hcount, (hempty .text "" heparse).mpr (honce hcount)⟩

/-- Of two fields with one name, the path leads to the first and the snapshot shows the second. -/
theorem record_reads_first :
    let number (i : Int) (h : IntegerType.Contains ⟨true, .bits32⟩ i) : Value := .integer ⟨_, i, h⟩
    let one := number 1 (by decide)
    let two := number 2 (by decide)
    let three := number 3 (by decide)
    let v := record "Twin" [("X", one), ("X", two), ("Y", three)]
    v.field? "X" = some one ∧
      v.snapshot = .object [("X", two.snapshot), ("Y", three.snapshot)] ∧
      resolve .text v "X" = .ok (some (.one one)) ∧
      resolve .text (json v.snapshot) "X" = .ok (some (.one (json two.snapshot))) ∧
      ¬ ∀ (typeName : String) (fields : List (String × Value)) (name : String) (x : Value),
        (record typeName fields).field? name = some x →
          ∃ members, (record typeName fields).snapshot = .object members ∧
            (name, x.snapshot) ∈ members := by
  intro number one two three v
  have hfield : v.field? "X" = some one := rfl
  have hsnapshot : v.snapshot = .object [("X", two.snapshot), ("Y", three.snapshot)] := rfl
  have hapart : one.snapshot ≠ two.snapshot := by
    intro h
    exact absurd (Json.Number.integer.inj (Json.number.inj h)) (by decide)
  have hparse : Path.parse "X" = .ok ⟨[.field "X"]⟩ := Path.parse_of_render (by decide) (by decide)
  refine ⟨hfield, hsnapshot, ?_, ?_, ?_⟩
  · rw [resolve_eq_resolve_path hparse]
    rfl
  · rw [resolve_eq_resolve_path hparse]
    rfl
  · intro h
    obtain ⟨members, hmembers, hmem⟩ := h "Twin" _ "X" one hfield
    obtain rfl := Json.object.inj (hmembers.symm.trans hsnapshot)
    exact hapart (by simpa using hmem)

end Value

end ObjectPath
