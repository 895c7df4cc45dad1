import Mathlib.Data.List.Forall2
import ObjectPath.Proofs.Binary.Rational
import ObjectPath.Proofs.Json.Reading

/-!
When documents are equal: the order of members does not count, nor does the sign of a zero. The
equality of filters differs from this one only where an integer meets a float.
-/
namespace ObjectPath.Json

/-- The keys of each object are distinct, at every depth. -/
inductive DistinctKeys : Json → Prop
  | scalar {j : Json} (h : j.isScalar = true) : DistinctKeys j
  | array {items : List Json} (h : ∀ x ∈ items, DistinctKeys x) : DistinctKeys (array items)
  | object {members : List (String × Json)} (hkeys : (members.map Prod.fst).Nodup)
    (h : ∀ m ∈ members, DistinctKeys m.2) : DistinctKeys (object members)

theorem Fits.distinctKeys {depth : Nat} {j : Json} (h : Fits depth j) : j.DistinctKeys := by
  induction h with
  | scalar h => exact .scalar h
  | array _ ih => exact .array ih
  | object hkeys _ ih => exact .object hkeys ih

/-- The reader gives no document with a key twice in one object. -/
theorem distinctKeys_of_parse {text : String} {j : Json} (h : parse text = .ok j) :
    j.DistinctKeys :=
  (fits_of_parse h).distinctKeys

/-- Documents that differ at most in the order of the members of objects, at any depth. -/
inductive Reordered : Json → Json → Prop
  | scalar {j : Json} (h : j.isScalar = true) : Reordered j j
  | array {xs ys : List Json} (hlength : xs.length = ys.length)
    (h : ∀ x y, (x, y) ∈ xs.zip ys → Reordered x y) : Reordered (array xs) (array ys)
  | object {ms ns : List (String × Json)} (hkeys : (ms.map Prod.fst).Perm (ns.map Prod.fst))
    (h : ∀ m ∈ ms, ∀ n ∈ ns, m.1 = n.1 → Reordered m.2 n.2) : Reordered (object ms) (object ns)

theorem Reordered.refl {x : Json} (h : x.DistinctKeys) : Reordered x x := by
  induction h with
  | scalar h => exact .scalar h
  | array _ ih =>
    have hitems := List.forall₂_iff_zip.mp (List.forall₂_same.mpr ih)
    exact .array rfl fun _ _ hxy => hitems.2 hxy
  | object hkeys _ ih =>
    refine .object (.refl _) ?_
    intro m hm n hn hkey
    rw [← List.inj_on_of_nodup_map hkeys hm hn hkey]
    exact ih m hm

/--
Documents that say the same: scalars are of one kind and value, arrays agree item by item, and
objects have the same keys, in any order, with values that say the same.
-/
inductive Alike : Json → Json → Prop
  | null : Alike null null
  | bool (b : Bool) : Alike (bool b) (bool b)
  | integer (i : Int) (hi : IsInteger i) : Alike (number (.integer i hi)) (number (.integer i hi))
  | float {x y : Double} (h : x.toRat = y.toRat) : Alike (number (.float x)) (number (.float y))
  | string (s : String) : Alike (string s) (string s)
  | array {xs ys : List Json} (hlength : xs.length = ys.length)
    (h : ∀ x y, (x, y) ∈ xs.zip ys → Alike x y) : Alike (array xs) (array ys)
  | object {ms ns : List (String × Json)} (hkeys : (ms.map Prod.fst).Perm (ns.map Prod.fst))
    (h : ∀ m ∈ ms, ∀ n ∈ ns, m.1 = n.1 → Alike m.2 n.2) : Alike (object ms) (object ns)

namespace Alike

theorem of_isScalar {x : Json} (h : x.isScalar = true) : Alike x x := by
  cases x with
  | null => exact .null
  | bool b => exact .bool b
  | number n =>
    cases n with
    | integer i hi => exact .integer i hi
    | float x => exact .float rfl
  | string s => exact .string s
  | array items => exact absurd h Bool.false_ne_true
  | object members => exact absurd h Bool.false_ne_true

theorem of_reordered {x y : Json} (h : Reordered x y) : Alike x y := by
  induction h with
  | scalar h => exact of_isScalar h
  | array hlength _ ih => exact .array hlength ih
  | object hkeys _ ih => exact .object hkeys ih

theorem refl {x : Json} (h : x.DistinctKeys) : Alike x x := of_reordered (.refl h)

theorem symm {x y : Json} (h : Alike x y) : Alike y x := by
  induction h with
  | null => exact .null
  | bool b => exact .bool b
  | integer i hi => exact .integer i hi
  | float h => exact .float h.symm
  | string s => exact .string s
  | @array xs ys hlength _ ih =>
    have hitems : List.Forall₂ (fun x y => Alike y x) xs ys :=
      List.forall₂_iff_zip.mpr ⟨hlength, fun {x y} => ih x y⟩
    have hflipped := List.forall₂_iff_zip.mp hitems.flip
    exact .array hflipped.1 fun _ _ hyx => hflipped.2 hyx
  | object hkeys _ ih => exact .object hkeys.symm fun n hn m hm hkey => ih m hm n hn hkey.symm

end Alike

theorem sameItems_iff (xs ys : List Json) :
    sameItems xs ys = true ↔ List.Forall₂ (fun x y => same x y = true) xs ys := by
  induction xs generalizing ys with
  | nil => cases ys <;> simp [sameItems]
  | cons x xs ih => cases ys <;> simp [sameItems, ih]

theorem sameMembers_iff (ms ns : List (String × Json)) :
    sameMembers ms ns = true ↔
      ∀ m ∈ ms, ∃ v, Entries.find? m.1 ns = some v ∧ same m.2 v = true := by
  induction ms with
  | nil => simp [sameMembers]
  | cons m ms ih =>
    obtain ⟨key, x⟩ := m
    rw [List.forall_mem_cons, ← ih, sameMembers]
    cases Entries.find? key ns <;> simp

theorem same_of_alike {x y : Json} (h : Alike x y) : x.same y = true := by
  induction h with
  | null => rfl
  | bool b => simp [same]
  | integer i hi => simp [same, Number.same]
  | float h => simpa [same, Number.same] using (Binary.sameValue_iff _ _).mpr h
  | string s => simp [same]
  | array hlength _ ih =>
    rw [same, sameItems_iff]
    exact List.forall₂_iff_zip.mpr ⟨hlength, fun {x y} => ih x y⟩
  | @object ms ns hkeys _ ih =>
    have hlength : ms.length = ns.length := by simpa using hkeys.length_eq
    rw [same, Bool.and_eq_true, beq_iff_eq, sameMembers_iff]
    refine ⟨hlength, ?_⟩
    intro m hm
    have hkey : m.1 ∈ ns.map Prod.fst := hkeys.mem_iff.mp (List.mem_map_of_mem hm)
    obtain ⟨v, hv⟩ := Entries.exists_find? hkey
    exact ⟨v, hv, ih m hm (m.1, v) (Entries.mem_of_find? hv) rfl⟩

/-- The keys of the first object are among those of the second one, which has no more of them. -/
theorem alike_of_same {x y : Json} (hx : x.DistinctKeys) (h : x.same y = true) : Alike x y := by
  induction hx generalizing y with
  | @scalar j hscalar =>
    cases j <;> cases y <;> simp [same, isScalar] at h hscalar
    case null.null => exact .null
    case bool.bool => exact h ▸ .bool _
    case string.string => exact h ▸ .string _
    case number.number m n =>
      cases m <;> cases n <;> simp [Number.same] at h
      case integer.integer => exact h ▸ .integer _ _
      case float.float => exact .float ((Binary.sameValue_iff _ _).mp h)
  | @array xs _ ih =>
    cases y <;> simp [same] at h
    case array ys =>
      obtain ⟨hlength, hitems⟩ := List.forall₂_iff_zip.mp ((sameItems_iff xs ys).mp h)
      exact .array hlength fun x y hxy => ih x (List.of_mem_zip hxy).1 (hitems hxy)
  | @object ms hkeys _ ih =>
    cases y <;> simp [same] at h
    case object ns =>
      obtain ⟨hlength, hmembers⟩ := h
      rw [sameMembers_iff] at hmembers
      have hsubset : ms.map Prod.fst ⊆ ns.map Prod.fst := by
        intro key hkey
        obtain ⟨m, hm, rfl⟩ := List.mem_map.mp hkey
        obtain ⟨v, hv, -⟩ := hmembers m hm
        exact List.mem_map.mpr ⟨(m.1, v), Entries.mem_of_find? hv, rfl⟩
      have hperm : (ms.map Prod.fst).Perm (ns.map Prod.fst) :=
        (hkeys.subperm hsubset).perm_of_length_le (by simp [hlength])
      refine .object hperm ?_
      intro m hm n hn hkey
      obtain ⟨v, hv, hsame⟩ := hmembers m hm
      have hfound : Entries.find? m.1 ns = some n.2 := by
        rw [Entries.find?_eq_some_iff (hperm.nodup_iff.mp hkeys), hkey]
        exact hn
      obtain rfl : v = n.2 := Option.some.inj (hv.symm.trans hfound)
      exact ih m hm hsame

theorem same_iff_alike {x : Json} (hx : x.DistinctKeys) (y : Json) :
    x.same y = true ↔ Alike x y :=
  ⟨alike_of_same hx, same_of_alike⟩

theorem same_comm {x y : Json} (hx : x.DistinctKeys) (hy : y.DistinctKeys) :
    x.same y = y.same x := by
  rw [Bool.eq_iff_iff, same_iff_alike hx, same_iff_alike hy]
  exact ⟨Alike.symm, Alike.symm⟩

theorem kind_eq_of_same {x y : Json} (h : x.same y = true) : x.kind = y.kind := by
  cases x <;> cases y <;> simp [same] at h <;> rfl

namespace Number

/-- Compares integers exactly, and an integer with a float as two floats. -/
def equalByKind : Number → Number → Bool
  | integer i _, integer j _ => i == j
  | m, n => m.toDouble.sameValue n.toDouble

theorem equalValue_eq_equalByKind (m n : Number) : m.equalValue n = m.equalByKind n := by
  cases m with
  | float x =>
    rw [equalValue_float_left]
    cases n <;> rfl
  | integer i hi =>
    cases n with
    | float y => exact equalValue_float_right _ y
    | integer j hj => exact equalValue_integer hi hj

theorem equalValue_self (n : Number) : n.equalValue n = true := by
  cases n with
  | integer i hi => simp
  | float x =>
    rw [equalValue_float_left]
    exact (Binary.sameValue_iff x x).mpr rfl

theorem equalValue_comm (m n : Number) : m.equalValue n = n.equalValue m := by
  have hfloats (x y : Double) : x.sameValue y = y.sameValue x := by
    rw [Bool.eq_iff_iff, Binary.sameValue_iff, Binary.sameValue_iff]
    exact eq_comm
  cases m with
  | float x => rw [equalValue_float_left, equalValue_float_right, hfloats]
  | integer i hi =>
    cases n with
    | float y => rw [equalValue_float_left, equalValue_float_right, hfloats]
    | integer j hj => rw [equalValue_integer, equalValue_integer, BEq.comm]

end Number

/-- One of two documents is an integer and the other one a float. -/
inductive Mixed : Json → Json → Prop
  | integerFloat (i : Int) (hi : IsInteger i) (x : Double) :
    Mixed (number (.integer i hi)) (number (.float x))
  | floatInteger (x : Double) (i : Int) (hi : IsInteger i) :
    Mixed (number (.float x)) (number (.integer i hi))

namespace Mixed

variable {x y : Json}

theorem symm (h : Mixed x y) : Mixed y x := by
  cases h with
  | integerFloat i hi x => exact .floatInteger x i hi
  | floatInteger x i hi => exact .integerFloat i hi x

theorem kind_eq (h : Mixed x y) : x.kind = y.kind := by
  cases h <;> rfl

theorem same_eq_false (h : Mixed x y) : x.same y = false := by
  cases h <;> rfl

theorem equalValue_comm (h : Mixed x y) : x.equalValue y = y.equalValue x := by
  cases h with
  | integerFloat i hi x => exact (Number.integer i hi).equalValue_comm (.float x)
  | floatInteger x i hi => exact (Number.float x).equalValue_comm (.integer i hi)

end Mixed

theorem equalValue_eq_same {x y : Json} (h : ¬ Mixed x y) : x.equalValue y = x.same y := by
  cases x with
  | number m =>
    cases y with
    | number n =>
      cases m with
      | integer i hi =>
        cases n with
        | integer j hj => exact Number.equalValue_integer hi hj
        | float y => exact absurd (.integerFloat i hi y) h
      | float x =>
        cases n with
        | integer j hj => exact absurd (.floatInteger x j hj) h
        | float y => exact Number.equalValue_float_left x (.float y)
    | _ => rfl
  | _ => rfl

theorem equalValue_of_same {x y : Json} (h : x.same y = true) : x.equalValue y = true := by
  have hmixed : ¬ Mixed x y := by
    intro hmixed
    rw [hmixed.same_eq_false] at h
    exact absurd h Bool.false_ne_true
  rwa [equalValue_eq_same hmixed]

/-- Only scalars equal a scalar. -/
theorem equalValue_eq_false {x literal : Json} (hx : x.isScalar = false)
    (hliteral : literal.isScalar = true) : x.equalValue literal = false := by
  cases x <;> cases literal <;> simp_all [isScalar, equalValue, same]

theorem equalValue_self {x : Json} (hx : x.DistinctKeys) : x.equalValue x = true := by
  cases x with
  | number n => exact n.equalValue_self
  | _ => exact same_of_alike (.refl hx)

theorem equalValue_comm {x y : Json} (hx : x.DistinctKeys) (hy : y.DistinctKeys) :
    x.equalValue y = y.equalValue x := by
  by_cases hmixed : Mixed x y
  · exact hmixed.equalValue_comm
  · have hflipped : ¬ Mixed y x := fun h => hmixed h.symm
    rw [equalValue_eq_same hmixed, equalValue_eq_same hflipped, same_comm hx hy]

/--
The equality of filters is reflexive and symmetric, and holds of documents that say the same. Unless
an integer meets a float it is the equality of documents. Integers are equal if they are the same
integer, whatever words they fit, and documents of different kinds are never equal.
-/
theorem equalValue_extends_same {x y : Json} (hx : x.DistinctKeys) (hy : y.DistinctKeys) :
    x.equalValue x = true ∧ x.equalValue y = y.equalValue x ∧
    (x.same y = true ↔ Alike x y) ∧ (x.same y = true → x.equalValue y = true) ∧
    (¬ Mixed x y → x.equalValue y = x.same y) ∧
    (∀ i j hi hj, x = number (.integer i hi) → y = number (.integer j hj) →
      (x.equalValue y = true ↔ i = j)) ∧
    (∀ m n, x = number m → y = number n → x.equalValue y = m.equalByKind n) ∧
    (x.kind ≠ y.kind → x.equalValue y = false) := by
  refine ⟨equalValue_self hx, equalValue_comm hx hy, same_iff_alike hx y, equalValue_of_same,
    equalValue_eq_same, ?_, ?_, ?_⟩
  · rintro i j hi hj rfl rfl
    rw [equalValue, Number.equalValue_integer, beq_iff_eq]
  · rintro m n rfl rfl
    exact m.equalValue_eq_equalByKind n
  · intro hkind
    have hmixed : ¬ Mixed x y := fun h => hkind h.kind_eq
    rw [equalValue_eq_same hmixed, ← Bool.not_eq_true]
    intro hsame
    exact hkind (kind_eq_of_same hsame)

theorem equalValue_extends_same_reordered :
    let greatest : Json := number (.integer 18446744073709551615 (by decide))
    let zero (negative : Bool) : Json := number (.float (.zero .double negative))
    let x := object [("a", array [zero false, greatest]), ("b", null)]
    let y := object [("b", null), ("a", array [zero true, greatest])]
    parse "\x7b\"a\":[0.0,18446744073709551615],\"b\":null\x7d" = .ok x ∧
      parse "\x7b\"b\":1,\"a\":[-0.0,18446744073709551615],\"b\":null\x7d" = .ok y ∧
      x.DistinctKeys ∧ y.DistinctKeys ∧ ¬ Mixed x y ∧ x.equalValue y = true ∧ Alike x y := by
  intro greatest zero x y
  have hparse : parse "\x7b\"a\":[0.0,18446744073709551615],\"b\":null\x7d" = .ok x := by
    with_unfolding_all rfl
  have hparse' : parse "\x7b\"b\":1,\"a\":[-0.0,18446744073709551615],\"b\":null\x7d" = .ok y := by
    with_unfolding_all rfl
  have hx : x.DistinctKeys := distinctKeys_of_parse hparse
  have hy : y.DistinctKeys := distinctKeys_of_parse hparse'
  have hmixed : ¬ Mixed x y := by
    show ¬ Mixed (object _) (object _)
    nofun
  have hsame : x.same y = true := by decide
  obtain ⟨-, -, halike, -, hextends, -⟩ := equalValue_extends_same hx hy
  exact ⟨hparse, hparse', hx, hy, hmixed, (hextends hmixed).trans hsame, halike.mp hsame⟩

end ObjectPath.Json
