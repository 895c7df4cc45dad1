import Mathlib.Data.List.Infix
import ObjectPath.Path.Reader

/-! The grammar of paths: which segments have a written form, and which lists of them are paths. -/
namespace ObjectPath

open ObjectPath.Text

namespace Path

def IsUnbracketed (cs : List Char) : Prop := '[' ∉ cs ∧ ']' ∉ cs

/-- A name, which may be empty: a text without dots and brackets. -/
def IsName (cs : List Char) : Prop := '.' ∉ cs ∧ IsUnbracketed cs

def operator : List Char := ['=', '=']

/-- A side of a filter has no brackets and something besides white space. -/
def IsOperand (cs : List Char) : Prop := IsUnbracketed cs ∧ ∃ c ∈ cs, isBlankChar c = false

/-- The first operator in the joined sides of a filter is the one that joins them. -/
def JoinsFirst (field value : List Char) : Prop :=
  ∀ before after : List Char,
    field ++ operator ++ value = before ++ operator ++ after → field.length ≤ before.length

theorem splitOperator_eq_some {cs field value : List Char}
    (h : splitOperator cs = some (field, value)) :
    cs = field ++ operator ++ value ∧ JoinsFirst field value := by
  fun_induction splitOperator cs generalizing field with
  | case1 => simp at h
  | case2 rest =>
    simp only [Option.some.injEq, Prod.mk.injEq] at h
    obtain ⟨rfl, rfl⟩ := h
    exact ⟨rfl, fun before after _ => Nat.zero_le before.length⟩
  | case3 c cs hno ih =>
    obtain ⟨⟨front, back⟩, hsplit, heq⟩ := Option.map_eq_some_iff.mp h
    simp only [Prod.mk.injEq] at heq
    obtain ⟨rfl, rfl⟩ := heq
    obtain ⟨rfl, hfirst⟩ := ih hsplit
    refine ⟨rfl, ?_⟩
    intro before after heq
    cases before with
    | nil =>
      simp only [operator, List.cons_append, List.nil_append, List.cons.injEq] at heq
      obtain ⟨rfl, heq⟩ := heq
      exact absurd heq (hno _ rfl)
    | cons b before =>
      simp only [List.cons_append, List.cons.injEq] at heq
      have hle := hfirst before after heq.2
      simp only [List.length_cons]
      omega

theorem splitOperator_eq_none_iff {cs : List Char} :
    splitOperator cs = none ↔ ¬ operator <:+: cs := by
  constructor
  · intro h
    fun_induction splitOperator cs with
    | case1 => decide
    | case2 rest => simp at h
    | case3 c cs hno ih =>
      have hrest := ih (Option.map_eq_none_iff.mp h)
      rw [List.infix_cons_iff]
      intro hin
      cases hin with
      | inl hfront =>
        obtain ⟨after, heq⟩ := hfront
        simp only [operator, List.cons_append, List.nil_append, List.cons.injEq] at heq
        exact hno after heq.1.symm heq.2.symm
      | inr hin => exact hrest hin
  · intro h
    cases hs : splitOperator cs with
    | none => rfl
    | some sides =>
      obtain ⟨hcs, _⟩ := splitOperator_eq_some hs
      exact absurd ⟨sides.1, sides.2, hcs.symm⟩ h

/-- The sides of a split are those that the first operator joins. -/
theorem splitOperator_eq_some_iff {cs field value : List Char} :
    splitOperator cs = some (field, value) ↔
      cs = field ++ operator ++ value ∧ JoinsFirst field value := by
  constructor
  · exact splitOperator_eq_some
  · intro ⟨hcs, hfirst⟩
    subst hcs
    cases hs : splitOperator (field ++ operator ++ value) with
    | none => exact absurd ⟨field, value, rfl⟩ (splitOperator_eq_none_iff.mp hs)
    | some sides =>
      obtain ⟨front, back⟩ := sides
      obtain ⟨heq, hleast⟩ := splitOperator_eq_some hs
      have hle := hfirst front back heq
      have hge := hleast field value heq.symm
      have hlen : (field ++ operator).length = (front ++ operator).length := by
        simp only [List.length_append]
        omega
      obtain ⟨hjoin, rfl⟩ := List.append_inj heq hlen
      have hfield := List.append_cancel_right hjoin
      rw [hfield]

instance (cs : List Char) : Decidable (IsUnbracketed cs) := inferInstanceAs (Decidable (_ ∧ _))

instance (cs : List Char) : Decidable (IsName cs) := inferInstanceAs (Decidable (_ ∧ _))

instance (cs : List Char) : Decidable (IsOperand cs) :=
  have : Decidable (∃ c ∈ cs, isBlankChar c = false) := List.decidableBEx _ cs
  inferInstanceAs (Decidable (_ ∧ _))

instance (field value : List Char) : Decidable (JoinsFirst field value) :=
  decidable_of_iff (splitOperator (field ++ operator ++ value) = some (field, value))
    (splitOperator_eq_some_iff.trans (and_iff_right rfl))

end Path

def Clause.WellFormed : Clause → Prop
  | .bare => True
  | .key token =>
    token ≠ "" ∧ Path.IsUnbracketed token.toList ∧ ¬ Path.operator <:+: token.toList
  | .filter field value result =>
    Path.IsOperand field.toList ∧ Path.IsOperand value.toList ∧
      Path.JoinsFirst field.toList value.toList ∧ result ≠ "" ∧ Path.IsName result.toList

instance : (c : Clause) → Decidable c.WellFormed
  | .bare => inferInstanceAs (Decidable True)
  | .key _ => inferInstanceAs (Decidable (_ ∧ _))
  | .filter _ _ _ => inferInstanceAs (Decidable (_ ∧ _))

def Segment.WellFormed (s : Segment) : Prop := Path.IsName s.name.toList ∧ s.clause.WellFormed

instance (s : Segment) : Decidable s.WellFormed := inferInstanceAs (Decidable (_ ∧ _))

namespace Path

/-- The segments of a path: at least one, each can be written, and nothing follows a filter. -/
structure WellFormed (segments : List Segment) : Prop where
  nonempty : segments ≠ []
  each : ∀ s ∈ segments, s.WellFormed
  filterLast : ∀ (before : List Segment) (s : Segment) (after : List Segment),
    segments = before ++ s :: after → s.isFilter = true → after = []

@[simp] theorem wellFormed_singleton {s : Segment} : WellFormed [s] ↔ s.WellFormed := by
  constructor
  · intro h
    exact h.each s (List.mem_singleton_self s)
  · intro h
    refine ⟨List.cons_ne_nil s [], by simpa using h, ?_⟩
    intro before t after heq _
    have hlen := congrArg List.length heq
    simp only [List.length_append, List.length_cons, List.length_nil] at hlen
    exact List.length_eq_zero_iff.mp (by omega)

@[simp] theorem wellFormed_cons_cons {s t : Segment} {rest : List Segment} :
    WellFormed (s :: t :: rest) ↔
      s.WellFormed ∧ s.isFilter = false ∧ WellFormed (t :: rest) := by
  constructor
  · intro ⟨_, heach, hlast⟩
    refine ⟨heach s List.mem_cons_self, ?_, List.cons_ne_nil t rest, ?_, ?_⟩
    · rw [← Bool.not_eq_true]
      intro hs
      exact List.cons_ne_nil t rest (hlast [] s (t :: rest) rfl hs)
    · intro u hu
      exact heach u (List.mem_cons_of_mem s hu)
    · intro before u after heq hu
      exact hlast (s :: before) u after (by rw [heq, List.cons_append]) hu
  · intro ⟨hs, hfilter, hrest⟩
    refine ⟨List.cons_ne_nil s _, List.forall_mem_cons.mpr ⟨hs, hrest.each⟩, ?_⟩
    intro before u after heq hu
    cases before with
    | nil =>
      obtain ⟨rfl, _⟩ := List.cons.inj heq
      rw [hfilter] at hu
      exact absurd hu (by decide)
    | cons b before => exact hrest.filterLast before u after (List.cons.inj heq).2 hu

instance decidableWellFormed : (segments : List Segment) → Decidable (WellFormed segments)
  | [] => isFalse fun h => h.nonempty rfl
  | [_] => decidable_of_iff _ wellFormed_singleton.symm
  | _ :: t :: rest =>
    have := decidableWellFormed (t :: rest)
    decidable_of_iff _ wellFormed_cons_cons.symm

/-- In `xs[k===v].r` the first two signs are the operator. -/
example : WellFormed [.filter "xs" "k" "=v" "r"] ∧ ¬ WellFormed [.filter "xs" "k=" "v" "r"] := by
  decide

/-- Segments with others behind them do not filter. -/
theorem WellFormed.isFilter_of_mem_front {front back : List Segment}
    (h : WellFormed (front ++ back)) (hback : back ≠ []) : ∀ s ∈ front, s.isFilter = false := by
  intro s hs
  obtain ⟨before, after, rfl⟩ := List.append_of_mem hs
  rw [← Bool.not_eq_true]
  intro hfilter
  have hnil := h.filterLast before s (after ++ back) (by simp) hfilter
  exact hback (List.append_eq_nil_iff.mp hnil).2

theorem WellFormed.getLast?_of_isFilter {segments : List Segment} (h : WellFormed segments)
    {s : Segment} (hs : s ∈ segments) (hfilter : s.isFilter = true) :
    segments.getLast? = some s := by
  obtain ⟨before, after, heq⟩ := List.append_of_mem hs
  have hafter := h.filterLast before s after heq hfilter
  rw [heq, hafter, List.getLast?_concat]

/-- A path without filter can be continued by another path. -/
theorem WellFormed.append {front back : List Segment} (hfront : WellFormed front)
    (hfree : ∀ s ∈ front, s.isFilter = false) (hback : WellFormed back) :
    WellFormed (front ++ back) := by
  induction front with
  | nil => exact absurd rfl hfront.nonempty
  | cons s rest ih =>
    have hs := hfree s List.mem_cons_self
    have hsegment := hfront.each s List.mem_cons_self
    cases rest with
    | nil =>
      obtain ⟨t, more, rfl⟩ := List.exists_cons_of_ne_nil hback.nonempty
      exact wellFormed_cons_cons.mpr ⟨hsegment, hs, hback⟩
    | cons t more =>
      obtain ⟨_, _, hrest⟩ := wellFormed_cons_cons.mp hfront
      have hmore := ih hrest fun u hu => hfree u (List.mem_cons_of_mem s hu)
      exact wellFormed_cons_cons.mpr ⟨hsegment, hs, hmore⟩

/-- The written forms of two paths are joined by a dot. -/
theorem charsOf_append {front back : List Segment} (hfront : front ≠ []) (hback : back ≠ []) :
    charsOf (front ++ back) = charsOf front ++ '.' :: charsOf back := by
  induction front with
  | nil => exact absurd rfl hfront
  | cons s rest ih =>
    cases rest with
    | nil =>
      obtain ⟨t, more, rfl⟩ := List.exists_cons_of_ne_nil hback
      rfl
    | cons t more =>
      have hrest := ih (List.cons_ne_nil t more)
      rw [List.cons_append] at hrest
      simp only [List.cons_append, charsOf, hrest, List.append_assoc]

end Path

end ObjectPath
