import ObjectPath.Proofs.Json.Literal
import ObjectPath.Proofs.Resolve.Composition
import ObjectPath.Proofs.Resolve.Parts

/-!
Comparison by text and comparison by document agree on literals that are no texts of scalars, where
there are no floats, and no values that show a document only.
-/
namespace ObjectPath

namespace Value

/-- Neither floats, in documents or not, nor sealed values are part of a value. -/
inductive Plain : Value → Prop
  | boolean (b : Bool) : Plain (.boolean b)
  | character (c : Char) : Plain (.character c)
  | text (kind : TextKind) (s : String) : Plain (.text kind s)
  | integer (n : Integer) : Plain (.integer n)
  | json {j : Json} (h : j.FloatFree) : Plain (.json j)
  | absent : Plain .absent
  | wrapped (layer : Layer) {v : Value} (h : Plain v) : Plain (.wrapped layer v)
  | sequence (kind : SequenceKind) {items : List Value} (h : ∀ v ∈ items, Plain v) :
    Plain (.sequence kind items)
  | map (kind : MapKind) (keyType : KeyType) {entries : List (Key × Value)}
    (h : ∀ e ∈ entries, Plain e.2) : Plain (.map kind keyType entries)
  | record (name : String) {fields : List (String × Value)} (h : ∀ f ∈ fields, Plain f.2) :
    Plain (.record name fields)

theorem plain_of_isPartOf {j : Json} (h : j.FloatFree) {v : Value} (hv : IsPartOf j v) :
    v.Plain := by
  obtain ⟨k, rfl, hk⟩ := hv
  exact .json (h.of_isPart hk)

/-- What a token selects in a map is the value of one of its entries. -/
theorem mem_of_select? {keyType : KeyType} {entries : List (Key × Value)} {token : String}
    {v : Value} (h : select? keyType entries token = some v) : ∃ e ∈ entries, e.2 = v := by
  obtain ⟨key, -, hkey⟩ := Option.bind_eq_some_iff.mp h
  exact ⟨(key, v), Entries.mem_of_find? hkey, rfl⟩

theorem inherited_plain : Inherited Plain where
  field? := by
    intro v w name h hw
    induction h with
    | @json j h => exact plain_of_isPartOf h ((inherited_isPartOf j).field? ⟨j, rfl, .self⟩ hw)
    | wrapped _ _ ih => exact ih hw
    | map _ _ h _ =>
      obtain ⟨e, he, rfl⟩ := mem_of_select? hw
      exact h e he
    | record _ h _ => exact h _ (Entries.mem_of_find? hw)
    | _ => simp [Value.field?] at hw
  lookup := by
    intro v w token h hw
    induction h with
    | @json j h => exact plain_of_isPartOf h ((inherited_isPartOf j).lookup ⟨j, rfl, .self⟩ hw)
    | wrapped _ _ ih => exact ih hw
    | sequence _ h _ => exact h w (mem_of_item? (Lookup.ofOption_eq_found_iff.mp hw))
    | map _ _ h _ =>
      obtain ⟨e, he, rfl⟩ := mem_of_select? (Lookup.ofOption_eq_found_iff.mp hw)
      exact h e he
    | _ => simp [Value.lookup] at hw
  elements? := by
    intro v items h hitems w hw
    induction h with
    | @json j h =>
      exact plain_of_isPartOf h ((inherited_isPartOf j).elements? ⟨j, rfl, .self⟩ hitems w hw)
    | wrapped _ _ ih => exact ih hitems
    | sequence _ h _ =>
      obtain rfl := Option.some.inj hitems
      exact h w hw
    | _ => simp [Value.elements?] at hitems

/-- The text of a value is shown as a string, or it is the text of a scalar that is no string. -/
def TextShows (v : Value) : Prop :=
  (∃ s, v.text? = some s ∧ v.snapshot = .string s) ∨
    (∀ s, v.snapshot ≠ .string s) ∧ ∀ s, v.text? = some s → Json.IsScalarText s

theorem textShows_json {j : Json} (h : j.FloatFree) : TextShows (.json j) := by
  have hscalar (k : Json) (hk : k.isScalar = true) (hfree : k.FloatFree) :
      ∀ s, some k.render = some s → Json.IsScalarText s := by
    rintro s ⟨⟩
    exact ⟨k, Json.parse_render_scalar hk hfree, hk⟩
  cases h with
  | null => exact .inr ⟨nofun, nofun⟩
  | bool b =>
    refine .inr ⟨nofun, ?_⟩
    cases b with
    | false => exact hscalar (.bool false) rfl (.bool false)
    | true => exact hscalar (.bool true) rfl (.bool true)
  | integer i hi => exact .inr ⟨nofun, hscalar (.number (.integer i hi)) rfl (.integer i hi)⟩
  | string s => exact .inl ⟨s, rfl, rfl⟩
  | array _ => exact .inr ⟨nofun, nofun⟩
  | object _ => exact .inr ⟨nofun, nofun⟩

theorem Plain.textShows {v : Value} (h : v.Plain) : v.TextShows := by
  induction h with
  | boolean b => exact textShows_json (.bool b)
  | character c => exact .inl ⟨String.singleton c, rfl, rfl⟩
  | text _ s => exact .inl ⟨s, rfl, rfl⟩
  | integer n => exact textShows_json (.integer n.value _)
  | json h => exact textShows_json h
  | wrapped _ _ ih => exact ih
  | absent => exact .inr ⟨nofun, nofun⟩
  | sequence => exact .inr ⟨nofun, nofun⟩
  | map => exact .inr ⟨nofun, nofun⟩
  | record => exact .inr ⟨nofun, nofun⟩

/-- On plain values a literal that is no text of a scalar means the same in both modes. -/
theorem Plain.holds {v : Value} (hv : v.Plain) {literal : String}
    (hliteral : ¬ Json.IsScalarText literal) :
    Comparison.text.holds v literal = Comparison.typed.holds v literal := by
  rw [Comparison.holds, Comparison.holds, Json.ofLiteral_of_not_isScalarText hliteral]
  rcases hv.textShows with ⟨s, htext, hsnapshot⟩ | ⟨hsnapshot, htext⟩
  · rw [htext, hsnapshot]
    simp [Json.equalValue, Json.same]
  · have hnot : v.text? ≠ some literal := fun h => hliteral (htext literal h)
    have hapart : v.snapshot.equalValue (.string literal) = false := by
      cases hj : v.snapshot with
      | string s => exact absurd hj (hsnapshot s)
      | _ => rfl
    rw [hapart]
    simpa using hnot

end Value

/-- Each filter of a path has a literal that is no text of a scalar document. -/
def Path.HasPlainLiterals (p : Path) : Prop :=
  ∀ s ∈ p.segments, ∀ field literal result, s.clause = .filter field literal result →
    ¬ Json.IsScalarText literal

/--
On a value without floats and sealed parts the modes of comparison differ only for filters whose
literal is the text of a scalar document. Any other path, as such or read from its text, has one
outcome in both modes.
-/
theorem resolve_text_eq_resolve_typed {v : Value} (hv : v.Plain) :
    (∀ p : Path, p.HasPlainLiterals → p.resolve .text v = p.resolve .typed v) ∧
    (∀ text, (∀ p, Path.parse text = .ok p → p.HasPlainLiterals) →
      resolve .text v text = resolve .typed v text) := by
  have hpaths (p : Path) (hp : p.HasPlainLiterals) : p.resolve .text v = p.resolve .typed v := by
    have hsim : Simulation p.segments .text .typed False Eq _ :=
      Value.inherited_plain.simulation fun s hs field literal result hclause _ hplain =>
        hplain.holds (hp s hs field literal result hclause)
    exact (hsim.related ⟨rfl, hv⟩).eq fun _ _ h => h.1
  refine ⟨hpaths, ?_⟩
  intro text htext
  cases hparse : Path.parse text with
  | ok p =>
    rw [resolve_eq_resolve_path hparse, resolve_eq_resolve_path hparse]
    exact hpaths p (htext p hparse)
  | error e => simp only [resolve, resolveTrail, readAndTrail, hparse]

theorem resolve_text_eq_resolve_typed_kinds :
    let item (k n : Value) : Value := .record "Item" [("k", k), ("n", n)]
    let seven : Value := .integer ⟨⟨false, .bits8⟩, 7, by decide⟩
    let v : Value := .record "Root" [("items", .sequence .vector [
      item (.character 'a') seven, item seven .absent, .wrapped .option .absent,
      .json (.object [("k", .string "a"), ("n", .null)])])]
    resolve .text v "items[k==a].n" = resolve .typed v "items[k==a].n" ∧
      resolve .text v "items[k==a].n" = .ok (some (.many [some seven, none])) := by
  intro item seven v
  have hitem {k n : Value} (hk : k.Plain) (hn : n.Plain) : (item k n).Plain := by
    refine .record "Item" ?_
    simp only [List.forall_mem_cons]
    exact ⟨hk, hn, nofun⟩
  have hjson : (Value.json (.object [("k", .string "a"), ("n", .null)])).Plain := by
    refine .json (.object ?_)
    simp only [List.forall_mem_cons]
    exact ⟨.string "a", .null, nofun⟩
  have hv : v.Plain := by
    refine .record "Root" ?_
    simp only [List.forall_mem_cons]
    refine ⟨.sequence .vector ?_, nofun⟩
    simp only [List.forall_mem_cons]
    exact ⟨hitem (.character 'a') (.integer _), hitem (.integer _) .absent,
      .wrapped .option .absent, hjson, nofun⟩
  have hparse : Path.parse "items[k==a].n" = .ok ⟨[.filter "items" "k" "a" "n"]⟩ :=
    Path.parse_of_render (by decide) (by decide)
  have hplain : ¬ Json.IsScalarText "a" := by
    rintro ⟨j, hj, -⟩
    exact absurd hj nofun
  refine ⟨(resolve_text_eq_resolve_typed hv).2 _ ?_, ?_⟩
  · intro p hp
    obtain rfl := Except.ok.inj (hparse.symm.trans hp)
    simpa [Path.HasPlainLiterals, Segment.filter] using hplain
  · rw [resolve_eq_resolve_path hparse]
    rfl

end ObjectPath
