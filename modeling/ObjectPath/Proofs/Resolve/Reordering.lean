import ObjectPath.Proofs.Json.Literal
import ObjectPath.Proofs.Resolve.Simulation

/-! The order of the members of objects does not matter to the resolution of paths. -/
namespace ObjectPath

namespace Json.Reordered

variable {x y : Json}

theorem kind_eq (h : Reordered x y) : x.kind = y.kind := by
  cases h <;> rfl

theorem same_eq_true (h : Reordered x y) : x.same y = true := same_of_alike (.of_reordered h)

/-- Scalars stay as they are, and nothing else equals a scalar. -/
theorem equalValue_eq (h : Reordered x y) {literal : Json} (hliteral : literal.isScalar = true) :
    x.equalValue literal = y.equalValue literal := by
  cases h with
  | scalar _ => rfl
  | array _ _ => rw [equalValue_eq_false rfl hliteral, equalValue_eq_false rfl hliteral]
  | object _ _ => rw [equalValue_eq_false rfl hliteral, equalValue_eq_false rfl hliteral]

theorem array_of_forall₂ {xs ys : List Json} (h : List.Forall₂ Reordered xs ys) :
    Reordered (.array xs) (.array ys) := by
  obtain ⟨hlength, hzip⟩ := List.forall₂_iff_zip.mp h
  exact .array hlength fun _ _ hxy => hzip hxy

/-- Members may be reordered inside, and then be put into any order. -/
theorem object_of_perm {ms ks ns : List (String × Json)} (hkeys : (ms.map Prod.fst).Nodup)
    (hperm : ks.Perm ns)
    (hinside : List.Forall₂ (fun m k => m.1 = k.1 ∧ Reordered m.2 k.2) ms ks) :
    Reordered (.object ms) (.object ns) := by
  have hsame : ms.map Prod.fst = ks.map Prod.fst := by
    rw [← List.forall₂_eq_eq_eq, List.forall₂_map_left_iff, List.forall₂_map_right_iff]
    exact hinside.imp fun _ _ h => h.1
  refine .object (hsame ▸ hperm.map Prod.fst) ?_
  intro m hm n hn hkey
  obtain ⟨i, hi, rfl⟩ := List.getElem_of_mem (hperm.mem_iff.mpr hn)
  have hi' : i < ms.length := hinside.length_eq ▸ hi
  obtain ⟨hkey', hvalue⟩ := hinside.get hi' hi
  have hsource : ms[i] = m :=
    List.inj_on_of_nodup_map hkeys (List.getElem_mem hi') hm (hkey'.trans hkey.symm)
  rw [← hsource]
  exact hvalue

end Json.Reordered

namespace Value

def Reordered (v w : Value) : Prop := ∃ j k, v = json j ∧ w = json k ∧ j.Reordered k

theorem rel_find?_reordered {ms ns : List (String × Json)}
    (hkeys : (ms.map Prod.fst).Perm (ns.map Prod.fst))
    (h : ∀ m ∈ ms, ∀ n ∈ ns, m.1 = n.1 → m.2.Reordered n.2) (key : String) :
    Option.Rel Reordered ((Entries.find? key ms).map json) ((Entries.find? key ns).map json) := by
  by_cases hkey : key ∈ ms.map Prod.fst
  · obtain ⟨j, hj⟩ := Entries.exists_find? hkey
    obtain ⟨k, hk⟩ := Entries.exists_find? (hkeys.mem_iff.mp hkey)
    rw [hj, hk]
    refine .some ⟨j, k, rfl, rfl, ?_⟩
    exact h (key, j) (Entries.mem_of_find? hj) (key, k) (Entries.mem_of_find? hk) rfl
  · rw [Entries.find?_eq_none hkey, Entries.find?_eq_none (mt hkeys.mem_iff.mpr hkey)]
    exact .none

theorem forall₂_reordered {xs ys : List Json} (hlength : xs.length = ys.length)
    (h : ∀ x y, (x, y) ∈ xs.zip ys → x.Reordered y) :
    List.Forall₂ Reordered (xs.map json) (ys.map json) := by
  rw [List.forall₂_map_left_iff, List.forall₂_map_right_iff]
  refine List.forall₂_iff_zip.mpr ⟨hlength, ?_⟩
  intro x y hxy
  exact ⟨x, y, rfl, rfl, h x y hxy⟩

namespace Reordered

variable {v w : Value}

theorem typeName (h : Reordered v w) : v.typeName = w.typeName := by
  obtain ⟨j, k, rfl, rfl, h⟩ := h
  exact h.kind_eq

theorem isAbsent (h : Reordered v w) : v.isAbsent = w.isAbsent := by
  obtain ⟨j, k, rfl, rfl, h⟩ := h
  cases h <;> rfl

theorem field? (h : Reordered v w) (name : String) :
    Option.Rel Reordered (v.field? name) (w.field? name) := by
  obtain ⟨j, k, rfl, rfl, h⟩ := h
  cases h with
  | @scalar j h =>
    cases j with
    | object _ => exact absurd h Bool.false_ne_true
    | _ => exact .none
  | array _ _ => exact .none
  | object hkeys h => exact rel_find?_reordered hkeys h name

theorem lookup (h : Reordered v w) (token : String) :
    Lookup.Related Reordered (v.lookup token) (w.lookup token) := by
  obtain ⟨j, k, rfl, rfl, h⟩ := h
  cases h with
  | @scalar j h =>
    cases j with
    | array _ => exact absurd h Bool.false_ne_true
    | object _ => exact absurd h Bool.false_ne_true
    | _ => exact .unsupported
  | array hlength h => exact .ofOption (rel_item? (forall₂_reordered hlength h) token)
  | object hkeys h => exact .ofOption (rel_find?_reordered hkeys h token)

theorem elements? (h : Reordered v w) :
    Option.Rel (List.Forall₂ Reordered) v.elements? w.elements? := by
  obtain ⟨j, k, rfl, rfl, h⟩ := h
  cases h with
  | @scalar j h =>
    cases j with
    | array _ => exact absurd h Bool.false_ne_true
    | _ => exact .none
  | array hlength h => exact .some (forall₂_reordered hlength h)
  | object _ _ => exact .none

/-- Only scalars have a text, and they stay as they are. -/
theorem text? (h : Reordered v w) : v.text? = w.text? := by
  obtain ⟨j, k, rfl, rfl, h⟩ := h
  cases h <;> rfl

theorem holds (h : Reordered v w) (mode : Comparison) (literal : String) :
    mode.holds v literal = mode.holds w literal := by
  cases mode with
  | text => rw [Comparison.holds, Comparison.holds, h.text?]
  | typed =>
    obtain ⟨j, k, rfl, rfl, h⟩ := h
    exact h.equalValue_eq (Json.isScalar_ofLiteral literal)

end Reordered

/-- No step of any path tells a document from a reordered one. -/
theorem simulation_reordered (mode : Comparison) (path : List Segment) :
    Simulation path mode mode False Eq Reordered where
  typeName h := h.typeName
  isAbsent h := h.isAbsent
  field? h _ _ name _ := h.field? name
  lookup h _ _ token _ := .inr (h.lookup token)
  elements? h := h.elements?
  holds h _ _ _ literal _ _ := h.holds mode literal

end Value

/-- Whether two outcomes are the same failure, both nothing, or equal results. -/
def Outcome.same : Outcome → Outcome → Bool
  | .error e, .error f => e == f
  | .ok a, .ok b => Found.sameResult a b
  | _, _ => false

theorem Json.Reordered.itemSnapshots {vs ws : List (Option Value)}
    (h : List.Forall₂ (Option.Rel Value.Reordered) vs ws) :
    Json.Reordered (.array (vs.map Found.itemSnapshot)) (.array (ws.map Found.itemSnapshot)) := by
  apply Json.Reordered.array_of_forall₂
  rw [List.forall₂_map_left_iff, List.forall₂_map_right_iff]
  refine h.imp ?_
  intro v w hvw
  cases hvw with
  | none => exact .scalar rfl
  | some hvw =>
    obtain ⟨j, k, rfl, rfl, h⟩ := hvw
    exact h

/-- Outcomes whose values are reordered are equal. -/
theorem Outcome.Related.same {a b : Outcome} (h : Related Eq Value.Reordered a b) :
    a.same b = true := by
  cases h with
  | nothing => rfl
  | one h =>
    obtain ⟨j, k, rfl, rfl, h⟩ := h
    exact h.same_eq_true
  | many h => exact (Json.Reordered.itemSnapshots h).same_eq_true
  | failed h =>
    rw [h.eq]
    exact beq_self_eq_true _

/--
A document may be reordered: each path has the same outcome, be it a failure, nothing, or what is
found. The values found are reordered, too, and those of a filter stand in the same places.
-/
theorem resolve_reordered {d d' : Json} (h : d.Reordered d') (mode : Comparison) (p : Path) :
    (p.resolve mode (.json d)).same (p.resolve mode (.json d')) = true ∧
      Outcome.Related Eq Value.Reordered (p.resolve mode (.json d)) (p.resolve mode (.json d')) := by
  have hsim := Value.simulation_reordered mode p.segments
  have hrelated := hsim.related (v := .json d) (w := .json d') ⟨d, d', rfl, rfl, h⟩
  exact ⟨hrelated.same, hrelated⟩

theorem resolve_reordered_typed :
    let seven : Json := .number (.integer 7 (by decide))
    let first : Json := .object [("k", seven), ("v", .object [("a", .null), ("b", .bool true)])]
    let first' : Json := .object [("v", .object [("b", .bool true), ("a", .null)]), ("k", seven)]
    let second : Json := .object [("k", seven), ("v", .null)]
    let d : Json := .object [("xs", .array [first, second]), ("y", .null)]
    let d' : Json := .object [("y", .null), ("xs", .array [first', second])]
    let p : Path := ⟨[.filter "xs" "k" "7" "v"]⟩
    d.Reordered d' ∧ (p.resolve .typed (.json d)).same (p.resolve .typed (.json d')) = true := by
  intro seven first first' second d d' p
  have hvalue : Json.Reordered (.object [("a", .null), ("b", .bool true)])
      (.object [("b", .bool true), ("a", .null)]) :=
    .object_of_perm (by decide) (.swap ..)
      (.cons ⟨rfl, .scalar rfl⟩ (.cons ⟨rfl, .scalar rfl⟩ .nil))
  have hfirst : first.Reordered first' :=
    .object_of_perm (by decide) (.swap ..) (.cons ⟨rfl, .scalar rfl⟩ (.cons ⟨rfl, hvalue⟩ .nil))
  have hsecond : second.Reordered second :=
    .object_of_perm (by decide) (.refl _)
      (.cons ⟨rfl, .scalar rfl⟩ (.cons ⟨rfl, .scalar rfl⟩ .nil))
  have hitems : Json.Reordered (.array [first, second]) (.array [first', second]) :=
    .array_of_forall₂ (.cons hfirst (.cons hsecond .nil))
  have hd : d.Reordered d' :=
    .object_of_perm (by decide) (.swap ..) (.cons ⟨rfl, hitems⟩ (.cons ⟨rfl, .scalar rfl⟩ .nil))
  exact ⟨hd, (resolve_reordered hd .typed p).1⟩

end ObjectPath
