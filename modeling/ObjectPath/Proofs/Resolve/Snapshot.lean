import ObjectPath.Proofs.Position
import ObjectPath.Proofs.Resolve.Simulation
import ObjectPath.Proofs.Value.Snapshot

/-! Resolving a path on a value agrees with resolving it on the snapshot of the value. -/
namespace ObjectPath

namespace Value

/--
The values whose snapshots show all that a path reads in them, keys in brackets apart. Maps have
texts as keys, fields have distinct names, and nothing is sealed. The texts of floating-point
numbers differ from those in documents, which does not matter where documents are compared.
-/
inductive Faithful (mode : Comparison) : Value → Prop
  | boolean (b : Bool) : Faithful mode (.boolean b)
  | character (c : Char) : Faithful mode (.character c)
  | text (kind : TextKind) (s : String) : Faithful mode (.text kind s)
  | integer (n : Integer) : Faithful mode (.integer n)
  | single (x : Single) (h : mode = .typed) : Faithful mode (.single (.finite x))
  | double (x : Double) (h : mode = .typed) : Faithful mode (.double (.finite x))
  | json (j : Json) : Faithful mode (.json j)
  | absent : Faithful mode .absent
  | wrapped (layer : Layer) {v : Value} (h : Faithful mode v) : Faithful mode (.wrapped layer v)
  | sequence (kind : SequenceKind) {items : List Value} (h : ∀ v ∈ items, Faithful mode v) :
    Faithful mode (.sequence kind items)
  | map (kind : MapKind) {entries : List (Key × Value)} (htype : ∀ e ∈ entries, e.1.type = .text)
    (hnodup : (entries.map Prod.fst).Nodup) (h : ∀ e ∈ entries, Faithful mode e.2) :
    Faithful mode (.map kind .text entries)
  | record (name : String) {fields : List (String × Value)}
    (hnodup : (fields.map Prod.fst).Nodup) (h : ∀ f ∈ fields, Faithful mode f.2) :
    Faithful mode (.record name fields)

def shown (v : Value) : Value := .json v.snapshot

def Shows (mode : Comparison) (v w : Value) : Prop := v.Faithful mode ∧ w = v.shown

variable {mode : Comparison} {v : Value}

theorem shows_json (j : Json) : Shows mode (.json j) (.json j) := ⟨.json j, rfl⟩

theorem rel_json (j? : Option Json) : Option.Rel (Shows mode) (j?.map json) (j?.map json) := by
  cases j? with
  | none => exact .none
  | some j => exact .some (shows_json j)

theorem rel_shown {found : Option Value} (h : ∀ v, found = some v → v.Faithful mode) :
    Option.Rel (Shows mode) found (found.map shown) := by
  cases found with
  | none => exact .none
  | some v => exact .some ⟨h v rfl, rfl⟩

theorem forall₂_json (items : List Json) :
    List.Forall₂ (Shows mode) (items.map json) (items.map json) := by
  rw [List.forall₂_same]
  intro v hv
  obtain ⟨j, _, rfl⟩ := List.mem_map.mp hv
  exact shows_json j

theorem forall₂_itemSnapshots {items : List Value} (h : ∀ v ∈ items, v.Faithful mode) :
    List.Forall₂ (Shows mode) items ((itemSnapshots items).map json) := by
  rw [itemSnapshots_eq, List.map_map, List.forall₂_map_right_iff, List.forall₂_same]
  intro v hv
  exact ⟨h v hv, rfl⟩

/-- What a text selects in a map is shown by the member with this name. -/
theorem rel_select? {entries : List (Key × Value)} (htype : ∀ e ∈ entries, e.1.type = .text)
    (hnodup : (entries.map Prod.fst).Nodup) (h : ∀ e ∈ entries, e.2.Faithful mode)
    (kind : MapKind) (token : String) :
    Option.Rel (Shows mode) (select? .text entries token)
      ((Entries.find? token (members kind entries)).map json) := by
  have hkey : (Key.text token).type = .text := rfl
  have hmember : Entries.find? token (members kind entries) =
      (select? .text entries token).map snapshot := find?_members htype hnodup kind hkey
  rw [hmember, Option.map_map]
  apply rel_shown
  intro v hv
  exact h _ (Entries.mem_of_find? hv)

/-- A field of a record is shown by the member with its name. -/
theorem rel_find? {fields : List (String × Value)} (hnodup : (fields.map Prod.fst).Nodup)
    (h : ∀ f ∈ fields, f.2.Faithful mode) (name : String) :
    Option.Rel (Shows mode) (Entries.find? name fields)
      ((Entries.find? name (Entries.ofList (fieldSnapshots fields))).map json) := by
  rw [find?_fieldSnapshots hnodup, Option.map_map]
  apply rel_shown
  intro v hv
  exact h _ (Entries.mem_of_find? hv)

namespace Faithful

theorem isAbsent_eq (h : v.Faithful mode) : v.isAbsent = v.shown.isAbsent := by
  induction h with
  | wrapped layer _ ih => exact ih
  | _ => rfl

theorem text?_eq (h : v.Faithful .text) : v.text? = v.shown.text? := by
  induction h with
  | single x h => exact Comparison.noConfusion h
  | double x h => exact Comparison.noConfusion h
  | wrapped layer _ ih => exact ih
  | _ => rfl

theorem field? (h : v.Faithful mode) (name : String) :
    Option.Rel (Shows mode) (v.field? name) (v.shown.field? name) := by
  induction h with
  | json j =>
    cases j with
    | object members => exact rel_json _
    | _ => exact .none
  | wrapped layer _ ih => exact ih
  | map kind htype hnodup h _ => exact rel_select? htype hnodup h kind name
  | record _ hnodup h _ => exact rel_find? hnodup h name
  | _ => exact .none

/-- A record refuses keys, which its snapshot does not. -/
theorem lookup (h : v.Faithful mode) (token : String) :
    v.lookup token = .unsupported ∨
      Lookup.Related (Shows mode) (v.lookup token) (v.shown.lookup token) := by
  induction h with
  | json j =>
    cases j with
    | object members => exact .inr (.ofOption (rel_json _))
    | array items => exact .inr (.ofOption (rel_item? (forall₂_json items) token))
    | _ => exact .inl rfl
  | wrapped layer _ ih => exact ih
  | sequence kind h _ => exact .inr (.ofOption (rel_item? (forall₂_itemSnapshots h) token))
  | map kind htype hnodup h _ => exact .inr (.ofOption (rel_select? htype hnodup h kind token))
  | _ => exact .inl rfl

theorem elements? (h : v.Faithful mode) :
    Option.Rel (List.Forall₂ (Shows mode)) v.elements? v.shown.elements? := by
  induction h with
  | json j =>
    cases j with
    | array items => exact .some (forall₂_json items)
    | _ => exact .none
  | wrapped layer _ ih => exact ih
  | sequence kind h _ => exact .some (forall₂_itemSnapshots h)
  | _ => exact .none

theorem holds (h : v.Faithful mode) (literal : String) :
    mode.holds v literal = mode.holds v.shown literal := by
  cases mode with
  | text => rw [Comparison.holds, Comparison.holds, h.text?_eq]
  | typed => rfl

end Faithful

/-- No step of any path tells a faithful value from its snapshot, but for refused keys. -/
theorem simulation_shows (mode : Comparison) (path : List Segment) :
    Simulation path mode mode True (fun _ _ => True) (Shows mode) where
  typeName _ := trivial
  isAbsent := by
    intro v w ⟨hv, hw⟩
    rw [hw]
    exact hv.isAbsent_eq
  field? := by
    intro v w ⟨hv, hw⟩ s _ name _
    rw [hw]
    exact hv.field? name
  lookup := by
    intro v w ⟨hv, hw⟩ s _ token _
    rw [hw]
    exact (hv.lookup token).imp_left fun h => ⟨trivial, h⟩
  elements? := by
    intro v w ⟨hv, hw⟩
    rw [hw]
    exact hv.elements?
  holds := by
    intro v w ⟨hv, hw⟩ s _ field literal result _
    rw [hw]
    exact hv.holds literal

end Value

/--
A path leads to the same on a faithful value and on its snapshot: to nothing, to values with equal
snapshots, or to failures that differ at most in the names of types. Only a value that has no keys
in brackets, as a record, may fail where its snapshot does not.
-/
theorem resolve_snapshot (mode : Comparison) {v : Value} (hv : v.Faithful mode) (p : Path) :
    (∃ typeName, p.resolve mode v = .error (.notKeyed typeName)) ∨
      Outcome.Related (fun _ _ => True) (fun a b => a.snapshot = b.snapshot) (p.resolve mode v)
        (p.resolve mode (.json v.snapshot)) := by
  have hsim := Value.simulation_shows mode p.segments
  have hshows : Value.Shows mode v (.json v.snapshot) := ⟨hv, rfl⟩
  rcases hsim.resolve (List.Subset.refl _) hshows with ⟨_, hrefused⟩ | hrelated
  · exact .inl hrefused
  · right
    refine hrelated.mono ?_
    intro a b ⟨_, hb⟩
    rw [hb]
    rfl

theorem resolve_snapshot_filter :
    let item (n : Integer) (tag : Value) : Value := .record "Item" [("n", .integer n), ("tag", tag)]
    let seven : Integer := ⟨⟨false, .bits8⟩, 7, by decide⟩
    let root : Value := .map .hashed .text [
      (.text "items", .sequence .vector [
        item seven .absent, item seven (.wrapped .option (.character 'x'))]),
      (.text "done", .boolean true)]
    let p : Path := ⟨[.filter "items" "n" "7" "tag"]⟩
    p.resolve .text root = .ok (some (.many [none, some (.wrapped .option (.character 'x'))])) ∧
      root.Faithful .text ∧
      Outcome.Related (fun _ _ => True) (fun a b => a.snapshot = b.snapshot)
        (p.resolve .text root) (p.resolve .text (.json root.snapshot)) := by
  intro item seven root p
  have hitem : ∀ tag : Value, tag.Faithful .text → (item seven tag).Faithful .text := by
    intro tag htag
    refine .record "Item" (by simp) ?_
    simp only [List.forall_mem_cons]
    exact ⟨.integer seven, htag, by simp⟩
  have hroot : root.Faithful .text := by
    refine .map .hashed (by decide) (by decide) ?_
    simp only [List.forall_mem_cons]
    refine ⟨.sequence .vector ?_, .boolean true, by simp⟩
    simp only [List.forall_mem_cons]
    exact ⟨hitem _ .absent, hitem _ (.wrapped .option (.character 'x')), by simp⟩
  have hfound : p.resolve .text root =
      .ok (some (.many [none, some (.wrapped .option (.character 'x'))])) := by
    unfold p root item seven
    rfl
  refine ⟨hfound, hroot, ?_⟩
  rcases resolve_snapshot .text hroot p with ⟨typeName, hrefused⟩ | hrelated
  · rw [hfound] at hrefused
    simp at hrefused
  · exact hrelated

end ObjectPath
