import ObjectPath.Proofs.Resolve.Composition

/-! Where keys are fields, a key in brackets leads to what the field of that name leads to. -/
namespace ObjectPath

/-- The values whose keys are their fields: maps and JSON objects, in any layers. -/
inductive Value.IsKeyed : Value → Prop
  | map (kind : MapKind) (keyType : KeyType) (entries : List (Key × Value)) :
    IsKeyed (.map kind keyType entries)
  | object (members : List (String × Json)) : IsKeyed (.json (.object members))
  | wrapped (layer : Layer) {v : Value} (h : IsKeyed v) : IsKeyed (.wrapped layer v)

theorem Value.IsKeyed.lookup_eq {c : Value} (h : c.IsKeyed) (token : String) :
    c.lookup token = .ofOption (c.field? token) := by
  induction h with
  | map kind keyType entries => rfl
  | object members => rfl
  | wrapped layer _ ih => exact ih

namespace Path

/--
On a map or a JSON object, in any layers, a key in brackets and the field of that name lead to one
outcome, whatever follows. Only if there is no such key, the one reports the key and the other
the field, at the end of the path or on the way, and both the type of the container.
-/
theorem resolve_key_eq_field (mode : Comparison) {root c : Value} {front : List Segment}
    (hfree : ∀ s ∈ front, s.isFilter = false) {name : String}
    (hc : resolve mode root ⟨front ++ [.field name]⟩ = .ok (some (.one c))) (hkeyed : c.IsKeyed)
    (token : String) (back : List Segment) :
    let bracketed := resolve mode root ⟨front ++ .key name token :: back⟩
    let dotted := resolve mode root ⟨front ++ .field name :: .field token :: back⟩
    (c.field? token = none ∧ bracketed = .error (.noSuchKey token c.typeName) ∧
      dotted = .error (if back.isEmpty then .noSuchField token c.typeName
        else .noSuchStep token c.typeName)) ∨
    (∃ element, c.field? token = some element) ∧ bracketed = dotted := by
  intro bracketed dotted
  obtain ⟨owner, howner, hpresent, hfield, hthere⟩ := exists_owner hfree hc
  have hbracketed : bracketed = resolve mode owner ⟨.key name token :: back⟩ :=
    resolve_append_of_one hfree (List.cons_ne_nil _ _) howner
  have hdotted : dotted = resolve mode c ⟨.field token :: back⟩ := by
    rw [← resolve_field_cons hpresent hfield]
    exact resolve_append_of_one hfree (List.cons_ne_nil _ _) howner
  have hlookup := hkeyed.lookup_eq token
  rw [hbracketed, hdotted]
  cases helement : c.field? token with
  | none =>
    left
    rw [helement] at hlookup
    exact ⟨rfl, resolve_key_missing hpresent hfield hthere hlookup mode back,
      resolve_field_missing hthere helement mode back⟩
  | some element =>
    right
    rw [helement] at hlookup
    refine ⟨⟨element, rfl⟩, ?_⟩
    calc
      resolve mode owner ⟨.key name token :: back⟩ = resolve mode element ⟨back⟩ :=
        resolve_key hpresent hfield hthere hlookup mode back
      _ = resolve mode c ⟨.field token :: back⟩ := (resolve_field_cons hthere helement mode back).symm

theorem resolve_key_eq_field_behind :
    let two : Key := .integer ⟨⟨true, .bits8⟩, 2, by decide⟩
    let counts : Value := .wrapped .option (.map .hashed (.integer ⟨true, .bits8⟩) [(two, .absent)])
    let root : Value := .record "Root" [("counts", .wrapped .box counts)]
    resolve .text root ⟨[.key "counts" "3", .field "x"]⟩ = .error (.noSuchKey "3" "HashMap") ∧
      resolve .text root ⟨[.field "counts", .field "3", .field "x"]⟩ =
        .error (.noSuchStep "3" "HashMap") ∧
      resolve .text root ⟨[.key "counts" "+02", .field "x"]⟩ =
        resolve .text root ⟨[.field "counts", .field "+02", .field "x"]⟩ := by
  intro two counts root
  have hfree : ∀ s ∈ ([] : List Segment), s.isFilter = false := by simp
  have hc : resolve .text root ⟨[] ++ [.field "counts"]⟩ =
      .ok (some (.one (.wrapped .box counts))) := by
    unfold root counts
    rfl
  have hkeyed : (Value.wrapped .box counts).IsKeyed := .wrapped .box (.wrapped .option (.map _ _ _))
  have hmissing : (Value.wrapped .box counts).field? "3" = none := rfl
  have hthere : (Value.wrapped .box counts).field? "+02" = some .absent := rfl
  have hthree := resolve_key_eq_field .text hfree hc hkeyed "3" [.field "x"]
  have htwo := resolve_key_eq_field .text hfree hc hkeyed "+02" [.field "x"]
  rw [hmissing] at hthree
  rw [hthere] at htwo
  rcases hthree with ⟨_, hbracketed, hdotted⟩ | ⟨⟨element, helement⟩, _⟩
  · rcases htwo with ⟨habsent, _⟩ | ⟨_, hsame⟩
    · simp at habsent
    · exact ⟨hbracketed, hdotted, hsame⟩
  · simp at helement

end Path

end ObjectPath
