import Mathlib.Data.List.Perm.Basic
import ObjectPath.CommandLine.Options

/-!
When arguments are accepted, and what is wrong with them when they are not. Accepted arguments mean
the same in any order; of several offences the leftmost one is reported.
-/
namespace ObjectPath.CommandLine

def IsFlag (a : String) : Prop := ['-', '-'] <+: a.toList

instance (a : String) : Decidable (IsFlag a) := inferInstanceAs (Decidable (_ <+: _))

def IsKnown (a : String) : Prop := a = "--typed" ∨ a = "--pretty"

instance (a : String) : Decidable (IsKnown a) := inferInstanceAs (Decidable (_ ∨ _))

def paths (arguments : List String) : List String := arguments.filter fun a => !decide (IsFlag a)

theorem mem_paths_iff {a : String} {arguments : List String} :
    a ∈ paths arguments ↔ a ∈ arguments ∧ ¬ IsFlag a := by
  simp [paths]

def FlagsKnown (arguments : List String) : Prop := ∀ a ∈ arguments, IsFlag a → IsKnown a

instance (arguments : List String) : Decidable (FlagsKnown arguments) :=
  inferInstanceAs (Decidable (∀ a ∈ arguments, _))

/-- What is wrong with an argument behind others. -/
inductive Offence (before : List String) (a : String) : UsageError → Prop
  | unknownFlag (hflag : IsFlag a) (h : ¬ IsKnown a) : Offence before a (.unknownFlag a)
  | secondPath {first : String} (hfirst : first ∈ before) (h : ¬ IsFlag first) (ha : ¬ IsFlag a) :
    Offence before a .secondPath

def FirstOffence (arguments : List String) (e : UsageError) : Prop :=
  ∃ before a after, arguments = before ++ a :: after ∧ Offence before a e ∧
    ∀ front b back f, before = front ++ b :: back → ¬ Offence front b f

/-- Where the flags are known and there is one path at most, no argument is an offence. -/
theorem not_offence {arguments : List String} (hknown : FlagsKnown arguments)
    (hone : (paths arguments).length ≤ 1) {before after : List String} {a : String}
    (heq : arguments = before ++ a :: after) (e : UsageError) : ¬ Offence before a e := by
  intro hoffence
  cases hoffence with
  | unknownFlag hflag hunknown =>
    have hmem : a ∈ arguments := by simp [heq]
    exact hunknown (hknown a hmem hflag)
  | secondPath hfirst hpath ha =>
    have hbefore : 0 < (paths before).length :=
      List.length_pos_of_mem (mem_paths_iff.mpr ⟨hfirst, hpath⟩)
    have hsplit : paths arguments = paths before ++ a :: paths after := by
      rw [heq]
      simp [paths, ha]
    rw [hsplit, List.length_append, List.length_cons] at hone
    omega

theorem not_firstOffence {arguments : List String} (hknown : FlagsKnown arguments)
    (hone : (paths arguments).length ≤ 1) (e : UsageError) : ¬ FirstOffence arguments e := by
  rintro ⟨before, a, after, heq, hoffence, -⟩
  exact not_offence hknown hone heq e hoffence

theorem Argument.ofString_cases (a : String) :
    (a = "--typed" ∧ ofString a = .typed) ∨ (a = "--pretty" ∧ ofString a = .pretty) ∨
      (IsFlag a ∧ ¬ IsKnown a ∧ ofString a = .unknown a) ∨ (¬ IsFlag a ∧ ofString a = .path a) := by
  by_cases htyped : a = "--typed"
  · exact .inl ⟨htyped, if_pos htyped⟩
  by_cases hpretty : a = "--pretty"
  · exact .inr (.inl ⟨hpretty, by rw [ofString, if_neg htyped, if_pos hpretty]⟩)
  right
  right
  rw [ofString, if_neg htyped, if_neg hpretty]
  split
  · rename_i tail htail
    exact .inl ⟨⟨tail, htail.symm⟩, by simp [IsKnown, htyped, hpretty], rfl⟩
  · rename_i hother
    refine .inr ⟨?_, rfl⟩
    rintro ⟨tail, htail⟩
    exact hother tail htail.symm

/-- What was taken of the arguments so far, none of which is an offence. -/
structure Draft.Describes (d : Draft) (front : List String) : Prop where
  flagsKnown : FlagsKnown front
  path? : paths front = d.path?.toList
  typed : d.comparison = .typed ↔ "--typed" ∈ front
  pretty : d.pretty = true ↔ "--pretty" ∈ front

namespace Draft

theorem describes_empty : empty.Describes [] where
  flagsKnown := by simp [FlagsKnown]
  path? := rfl
  typed := by simp [empty]
  pretty := by simp [empty]

namespace Describes

variable {d : Draft} {front : List String}

theorem flagsKnown_concat (h : d.Describes front) {a : String} (ha : IsFlag a → IsKnown a) :
    FlagsKnown (front ++ [a]) := by
  intro b hb
  rcases List.mem_append.mp hb with hfront | hlast
  · exact h.flagsKnown b hfront
  · exact List.mem_singleton.mp hlast ▸ ha

theorem paths_concat_flag (h : d.Describes front) {a : String} (ha : IsFlag a) :
    paths (front ++ [a]) = d.path?.toList := by
  rw [← h.path?]
  simp [paths, ha]

/-- One more argument is an offence, or the draft describes it, too. -/
theorem add (h : d.Describes front) (a : String) :
    (∃ e, Offence front a e ∧ d.add (.ofString a) = .error e) ∨
      ∃ e, e.Describes (front ++ [a]) ∧ d.add (.ofString a) = .ok e := by
  rcases Argument.ofString_cases a with
    ⟨rfl, ha⟩ | ⟨rfl, ha⟩ | ⟨hflag, hunknown, ha⟩ | ⟨hpath, ha⟩
  · refine .inr ⟨{ d with comparison := .typed }, ?_, by rw [ha]; rfl⟩
    exact {
      flagsKnown := h.flagsKnown_concat fun _ => .inl rfl
      path? := h.paths_concat_flag (by decide)
      typed := by simp
      pretty := by simp [h.pretty] }
  · refine .inr ⟨{ d with pretty := true }, ?_, by rw [ha]; rfl⟩
    exact {
      flagsKnown := h.flagsKnown_concat fun _ => .inr rfl
      path? := h.paths_concat_flag (by decide)
      typed := by simp [h.typed]
      pretty := by simp }
  · exact .inl ⟨.unknownFlag a, .unknownFlag hflag hunknown, by rw [ha]; rfl⟩
  · cases hd : d.path? with
    | some first =>
      have hfirst : first ∈ paths front := by simp [h.path?, hd]
      obtain ⟨hmem, hnot⟩ := mem_paths_iff.mp hfirst
      refine .inl ⟨.secondPath, .secondPath hmem hnot hpath, ?_⟩
      simp only [ha, Draft.add, hd]
    | none =>
      have htyped : "--typed" ≠ a := fun heq => hpath (heq ▸ by decide)
      have hpretty : "--pretty" ≠ a := fun heq => hpath (heq ▸ by decide)
      have hnone : paths front = [] := by simp [h.path?, hd]
      refine .inr ⟨{ d with path? := some a }, ?_, by simp only [ha, Draft.add, hd]⟩
      exact {
        flagsKnown := h.flagsKnown_concat fun hflag => absurd hflag hpath
        path? := by
          rw [paths] at hnone
          simp [paths, hnone, hpath]
        typed := by simp [h.typed, htyped]
        pretty := by simp [h.pretty, hpretty] }

theorem length_paths_le (h : d.Describes front) : (paths front).length ≤ 1 := by
  rw [h.path?]
  cases d.path? <;> simp

/--
The induction is on the arguments that are left. They are taken up to the leftmost offence, or all
of them are.
-/
theorem addAll (h : d.Describes front) (rest : List String) :
    (∃ before a after e, rest = before ++ a :: after ∧
      Offence (front ++ before) a e ∧ (∃ c : Draft, c.Describes (front ++ before)) ∧
      d.addAll (rest.map Argument.ofString) = .error e) ∨
    ∃ e, e.Describes (front ++ rest) ∧ d.addAll (rest.map Argument.ofString) = .ok e := by
  induction rest generalizing d front with
  | nil => exact .inr ⟨d, by rwa [List.append_nil], rfl⟩
  | cons a rest ih =>
    rw [List.map_cons, Draft.addAll]
    rcases h.add a with ⟨e, hoffence, hadd⟩ | ⟨c, hc, hadd⟩
    · refine .inl ⟨[], a, rest, e, rfl, ?_, ⟨d, ?_⟩, by rw [hadd]⟩
      · rwa [List.append_nil]
      · rwa [List.append_nil]
    · rw [hadd]
      rcases ih hc with ⟨before, b, after, e, heq, hoffence, hbefore, haddAll⟩ | ⟨e, he, haddAll⟩
      · rw [List.append_assoc, List.singleton_append] at hoffence hbefore
        exact .inl ⟨a :: before, b, after, e, by rw [heq, List.cons_append], hoffence, hbefore,
          haddAll⟩
      · rw [List.append_assoc, List.singleton_append] at he
        exact .inr ⟨e, he, haddAll⟩

end Describes

end Draft

theorem Draft.addAll_append (d : Draft) (front back : List Argument) :
    d.addAll (front ++ back) = (d.addAll front).bind fun e => e.addAll back := by
  induction front generalizing d with
  | nil => rfl
  | cons a front ih =>
    rw [List.cons_append, Draft.addAll, Draft.addAll]
    cases d.add a with
    | error e => rfl
    | ok e => exact ih e

theorem Offence.unique {before : List String} {a : String} {e f : UsageError}
    (he : Offence before a e) (hf : Offence before a f) : e = f := by
  cases he with
  | unknownFlag hflag _ =>
    cases hf with
    | unknownFlag _ _ => rfl
    | secondPath _ _ ha => exact absurd hflag ha
  | secondPath _ _ ha =>
    cases hf with
    | unknownFlag hflag _ => exact absurd hflag ha
    | secondPath _ _ _ => rfl

/-- Arguments are read into what a draft of all of them asks for, unless one is an offence. -/
theorem Options.parse_cases (arguments : List String) :
    (∃ e, FirstOffence arguments e ∧ parse arguments = .error e) ∨
      ∃ d : Draft, d.Describes arguments ∧ parse arguments = d.finish := by
  unfold parse
  rcases Draft.describes_empty.addAll arguments with
    ⟨before, a, after, e, heq, hoffence, ⟨c, hc⟩, haddAll⟩ | ⟨d, hd, haddAll⟩
  · rw [haddAll]
    refine .inl ⟨e, ⟨before, a, after, heq, hoffence, ?_⟩, rfl⟩
    intro front b back f hsplit
    exact not_offence hc.flagsKnown hc.length_paths_le hsplit f
  · rw [haddAll]
    exact .inr ⟨d, hd, rfl⟩

/-- The arguments before the leftmost offence are taken, and the offence is not. -/
theorem FirstOffence.parse_eq {arguments : List String} {e : UsageError}
    (h : FirstOffence arguments e) : Options.parse arguments = .error e := by
  obtain ⟨before, a, after, rfl, hoffence, hfirst⟩ := h
  rcases Draft.describes_empty.addAll before with
    ⟨front, b, back, f, heq, hearlier, -, -⟩ | ⟨d, hd, htaken⟩
  · exact absurd hearlier (hfirst front b back f heq)
  · rw [List.nil_append] at hd
    rcases hd.add a with ⟨f, hf, hadd⟩ | ⟨c, hc, hadd⟩
    · rw [Options.parse, List.map_append, Draft.addAll_append, htaken, List.map_cons]
      simp only [Except.bind, Draft.addAll, hadd]
      rw [hf.unique hoffence]
    · exact absurd hoffence (not_offence hc.flagsKnown hc.length_paths_le rfl e)

theorem Options.parse_accepts_iff {arguments : List String} {o : Options} :
    parse arguments = .ok o ↔ FlagsKnown arguments ∧ paths arguments = [o.path] ∧
      (o.comparison = .typed ↔ "--typed" ∈ arguments) ∧
      (o.pretty = true ↔ "--pretty" ∈ arguments) := by
  constructor
  · intro h
    rcases parse_cases arguments with ⟨e, -, herror⟩ | ⟨d, hd, hfinish⟩
    · rw [herror] at h
      cases h
    · rw [hfinish, Draft.finish] at h
      cases hpath : d.path? with
      | none => simp [hpath] at h
      | some path =>
        have ho : ⟨path, d.comparison, d.pretty⟩ = o := by simpa [hpath] using h
        rw [← ho]
        exact ⟨hd.flagsKnown, by simp [hd.path?, hpath], hd.typed, hd.pretty⟩
  · rintro ⟨hknown, hpaths, htyped, hpretty⟩
    rcases parse_cases arguments with ⟨e, hoffence, -⟩ | ⟨d, hd, hfinish⟩
    · exact absurd hoffence (not_firstOffence hknown (by simp [hpaths]) e)
    · have hpath : d.path? = some o.path :=
        Option.toList_eq_singleton_iff.mp (hd.path?.symm.trans hpaths)
      have hcomparison : d.comparison = o.comparison := by
        have hiff := hd.typed.trans htyped.symm
        cases hc : d.comparison <;> cases ho : o.comparison <;> simp_all
      have hpretty : d.pretty = o.pretty := Bool.eq_iff_iff.mpr (hd.pretty.trans hpretty.symm)
      rw [hfinish, Draft.finish, hpath, hcomparison, hpretty]

theorem Options.parse_refuses_iff {arguments : List String} {e : UsageError} :
    parse arguments = .error e ↔ FirstOffence arguments e ∨
      (∀ f, ¬ FirstOffence arguments f) ∧ paths arguments = [] ∧ e = .noPath := by
  constructor
  · intro h
    rcases parse_cases arguments with ⟨f, hoffence, herror⟩ | ⟨d, hd, hfinish⟩
    · obtain rfl : f = e := Except.error.inj (herror.symm.trans h)
      exact .inl hoffence
    · rw [hfinish, Draft.finish] at h
      cases hpath : d.path? with
      | some path => simp [hpath] at h
      | none =>
        have he : UsageError.noPath = e := by simpa [hpath] using h
        exact .inr ⟨not_firstOffence hd.flagsKnown hd.length_paths_le, by simp [hd.path?, hpath],
          he.symm⟩
  · rintro (hoffence | ⟨hnone, hpaths, rfl⟩)
    · exact hoffence.parse_eq
    · rcases parse_cases arguments with ⟨f, hoffence, -⟩ | ⟨d, hd, hfinish⟩
      · exact absurd hoffence (hnone f)
      · have hpath : d.path? = none := Option.toList_eq_nil_iff.mp (hd.path?.symm.trans hpaths)
        rw [hfinish, Draft.finish, hpath]

/-- The same paths, and the same flags wherever and however often they stand. -/
def SameArguments (xs ys : List String) : Prop :=
  (paths xs).Perm (paths ys) ∧ ∀ a, IsFlag a → (a ∈ xs ↔ a ∈ ys)

namespace SameArguments

theorem of_perm {xs ys : List String} (h : xs.Perm ys) : SameArguments xs ys :=
  ⟨h.filter _, fun _ _ => h.mem_iff⟩

theorem of_repeated {front back : List String} {a : String} (ha : IsFlag a)
    (hmem : a ∈ front ++ back) : SameArguments (front ++ a :: back) (front ++ back) := by
  constructor
  · simp [paths, ha]
  · intro b _
    rw [List.mem_append] at hmem
    simp only [List.mem_append, List.mem_cons]
    constructor
    · rintro (hb | rfl | hb)
      · exact .inl hb
      · exact hmem
      · exact .inr hb
    · rintro (hb | hb)
      · exact .inl hb
      · exact .inr (.inr hb)

theorem symm {xs ys : List String} (h : SameArguments xs ys) : SameArguments ys xs :=
  ⟨h.1.symm, fun a ha => (h.2 a ha).symm⟩

theorem parse_accepts {xs ys : List String} (h : SameArguments xs ys) {o : Options}
    (ho : Options.parse xs = .ok o) : Options.parse ys = .ok o := by
  obtain ⟨hpaths, hflags⟩ := h
  rw [Options.parse_accepts_iff] at ho ⊢
  obtain ⟨hknown, hpath, htyped, hpretty⟩ := ho
  refine ⟨?_, ?_, htyped.trans (hflags _ (by decide)), hpretty.trans (hflags _ (by decide))⟩
  · intro a ha hflag
    exact hknown a ((hflags a hflag).mpr ha) hflag
  · rw [hpath] at hpaths
    exact List.perm_singleton.mp hpaths.symm

theorem parse_accepts_iff {xs ys : List String} (h : SameArguments xs ys) (o : Options) :
    Options.parse xs = .ok o ↔ Options.parse ys = .ok o :=
  ⟨h.parse_accepts, h.symm.parse_accepts⟩

end SameArguments

/--
Arguments are accepted if their flags are known and one path is among them. They ask for this path
and what their flags say, in any order and however often a flag is repeated. Else the leftmost
offence is reported, and when there is none, that the path is missing.
-/
theorem Options.parse_up_to_order (arguments : List String) :
    ((∃ o, parse arguments = .ok o) ↔ FlagsKnown arguments ∧ (paths arguments).length = 1) ∧
    (∀ o, parse arguments = .ok o ↔ FlagsKnown arguments ∧ paths arguments = [o.path] ∧
      (o.comparison = .typed ↔ "--typed" ∈ arguments) ∧
      (o.pretty = true ↔ "--pretty" ∈ arguments)) ∧
    (∀ permuted, arguments.Perm permuted →
      ∀ o, parse arguments = .ok o ↔ parse permuted = .ok o) ∧
    (∀ front a back, arguments = front ++ a :: back → IsFlag a → a ∈ front ++ back →
      ∀ o, parse arguments = .ok o ↔ parse (front ++ back) = .ok o) ∧
    (∀ e, parse arguments = .error e ↔ FirstOffence arguments e ∨
      (∀ f, ¬ FirstOffence arguments f) ∧ paths arguments = [] ∧ e = .noPath) := by
  refine ⟨?_, fun o => parse_accepts_iff, ?_, ?_, fun e => parse_refuses_iff⟩
  · constructor
    · rintro ⟨o, ho⟩
      obtain ⟨hknown, hpath, -⟩ := parse_accepts_iff.mp ho
      exact ⟨hknown, by simp [hpath]⟩
    · rintro ⟨hknown, hone⟩
      obtain ⟨path, hpath⟩ := List.length_eq_one_iff.mp hone
      refine ⟨⟨path, if "--typed" ∈ arguments then .typed else .text,
        decide ("--pretty" ∈ arguments)⟩, parse_accepts_iff.mpr ⟨hknown, hpath, ?_, ?_⟩⟩
      · by_cases h : "--typed" ∈ arguments <;> simp [h]
      · simp
  · intro permuted hperm
    exact (SameArguments.of_perm hperm).parse_accepts_iff
  · rintro front a back rfl hflag hmem
    exact (SameArguments.of_repeated hflag hmem).parse_accepts_iff

theorem Options.parse_up_to_order_mixed :
    let arguments := ["--pretty", "a[-].b", "--typed", "--pretty"]
    let permuted := ["--typed", "--pretty", "--pretty", "a[-].b"]
    let o : Options := ⟨"a[-].b", .typed, true⟩
    (parse arguments = .ok o ∧ arguments.Perm permuted ∧ parse permuted = .ok o ∧
      parse ["a[-].b", "--typed", "--pretty"] = .ok o) ∧
    (FirstOffence ["-", "--typed", "b", "--"] .secondPath ∧
      parse ["-", "--typed", "b", "--"] = .error .secondPath) := by
  intro arguments permuted o
  obtain ⟨-, hok, hperm, hrepeated, -⟩ := parse_up_to_order arguments
  obtain ⟨-, -, -, -, herror⟩ := parse_up_to_order ["-", "--typed", "b", "--"]
  have haccepted : parse arguments = .ok o :=
    (hok o).mpr ⟨by decide, by decide, by decide, by decide⟩
  have hpermuted : arguments.Perm permuted := by decide
  have hsecond : FirstOffence ["-", "--typed", "b", "--"] .secondPath := by
    refine ⟨["-", "--typed"], "b", ["--"], rfl, ?_, ?_⟩
    · exact .secondPath List.mem_cons_self (by decide) (by decide)
    · intro front b back f heq
      exact not_offence (by decide) (by decide) heq f
  refine ⟨⟨haccepted, hpermuted, (hperm permuted hpermuted o).mp haccepted, ?_⟩, hsecond, ?_⟩
  · exact (hrepeated [] "--pretty" ["a[-].b", "--typed", "--pretty"] rfl (by decide) (by decide)
      o).mp haccepted
  · exact (herror .secondPath).mpr (.inl hsecond)

end ObjectPath.CommandLine
