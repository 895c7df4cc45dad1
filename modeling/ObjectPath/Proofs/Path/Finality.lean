import ObjectPath.Proofs.Path.Refusal

/-! Text behind a refused path: it changes nothing unless the path was cut short. -/
namespace ObjectPath.Path

open ObjectPath.Text

/-- A filter that ends with its bracket, or with the dot behind it. -/
def CutShort (cs : List Char) : Prop :=
  ∃ name field value rest, IsName name ∧ IsOperand field ∧ IsOperand value ∧
    (rest = [] ∨ rest = ['.']) ∧
    cs = name ++ '[' :: (field ++ operator ++ value ++ ']' :: rest)

theorem LacksResult.append {rest : List Char} (h : LacksResult rest) (hnil : rest ≠ [])
    (hdot : rest ≠ ['.']) (more : List Char) : LacksResult (rest ++ more) := by
  intro tail htail
  obtain ⟨c, cs, rfl⟩ := List.exists_cons_of_ne_nil hnil
  obtain ⟨rfl, rfl⟩ := List.cons.inj htail
  have hstop : Stops cs := h cs rfl
  have hne : cs ≠ [] := fun he => hdot (he ▸ rfl)
  obtain ⟨d, ds, rfl⟩ := List.exists_cons_of_ne_nil hne
  exact hstop

/-- What is refused is refused with more text behind it, unless it was not finished. -/
theorem Refused.append {position : Nat} {cs : List Char} {e : SyntaxError}
    (h : Refused position cs e) (hclosed : ∀ p, e ≠ .unclosedBracket p)
    (hwhole : e = .missingResult → ¬ CutShort cs) (more : List Char) :
    Refused position (cs ++ more) e := by
  cases h with
  | unclosed hname hopen => exact absurd rfl (hclosed _)
  | stray hname =>
    rw [List.append_assoc, List.cons_append]
    exact .stray hname
  | nested hname hbody hin =>
    simp only [List.append_assoc, List.cons_append]
    exact .nested hname hbody (List.mem_append_left more hin)
  | emptyKey hname =>
    rw [List.append_assoc, List.cons_append]
    exact .emptyKey hname
  | behindKey hname hne hfree hoperator hc =>
    simp only [List.append_assoc, List.cons_append]
    exact .behindKey hname hne hfree hoperator hc
  | @emptyOperand name field value rest hname hbody hfirst hblank =>
    have hrefused : Refused position
      (name ++ '[' :: (field ++ operator ++ value ++ ']' :: (rest ++ more))) _ :=
      .emptyOperand hname hbody hfirst hblank
    simpa using hrefused
  | @noResult name field value rest hname hfield hvalue hfirst hrest =>
    have hnil : rest ≠ [] := fun he =>
      hwhole rfl ⟨name, field, value, rest, hname, hfield, hvalue, .inl he, rfl⟩
    have hdot : rest ≠ ['.'] := fun he =>
      hwhole rfl ⟨name, field, value, rest, hname, hfield, hvalue, .inr he, rfl⟩
    have hrefused : Refused position
      (name ++ '[' :: (field ++ operator ++ value ++ ']' :: (rest ++ more))) _ :=
      .noResult hname hfield hvalue hfirst (hrest.append hnil hdot more)
    simpa using hrefused
  | @behindFilter name field value result rest c hname hfield hvalue hfirst hne hresult hc =>
    have hrefused : Refused position
      (name ++ '[' ::
        (field ++ operator ++ value ++ ']' :: '.' :: (result ++ c :: (rest ++ more)))) _ :=
      .behindFilter hname hfield hvalue hfirst hne hresult hc
    simpa using hrefused

/-- A text that ends with a closing bracket has no bracket that is not closed. -/
theorem parse_ne_unclosed (text : String) (p : Nat) :
    parse (text ++ "]") ≠ .error (.unclosedBracket p) := by
  intro h
  obtain ⟨front, fragment, hfront, htext, hrefused⟩ := parse_eq_error_iff.mp h
  cases hrefused with
  | @unclosed name after hname hopen =>
    have hlast : (text ++ "]").toList.getLast? = some ']' := by simp
    rw [htext] at hlast
    cases after with
    | nil => simp at hlast
    | cons c cs =>
      have hmem : ']' ∈ c :: cs := by
        apply List.mem_of_getLast?
        simpa using hlast
      exact hopen hmem

/-- A path and the comparison of a filter in brackets behind it, with no result field yet. -/
def EndsInFilter (text : String) : Prop :=
  ∃ before field value : String, (∃ p, parse before = .ok p) ∧ IsUnbracketed field.toList ∧
    IsUnbracketed value.toList ∧ text = before ++ "[" ++ field ++ "==" ++ value ++ "]"

theorem endsInFilter_of_leading {front : List Segment} (hfront : CanLead front)
    {name field value : List Char} (hname : IsName name) (hfield : IsOperand field)
    (hvalue : IsOperand value) :
    EndsInFilter (String.ofList
      (leading front ++ (name ++ '[' :: (field ++ operator ++ value ++ [']'])))) := by
  refine ⟨String.ofList (leading front ++ name), String.ofList field, String.ofList value,
    ⟨_, parse_name hfront hname⟩, by simpa using hfield.1, by simpa using hvalue.1, ?_⟩
  rw [← String.toList_inj]
  simp [operator]

/-- A segment that has a bracket already is refused with another one behind it. -/
theorem refused_bracket {s : Segment} (hs : s.WellFormed) (hclause : s.clause ≠ .bare)
    (position : Nat) (more : List Char) :
    ∃ e, e ≠ .missingResult ∧ Refused position (s.chars ++ '[' :: more) e := by
  obtain ⟨name, clause⟩ := s
  obtain ⟨hname, hparts⟩ := hs
  cases clause with
  | bare => exact absurd rfl hclause
  | key token =>
    obtain ⟨hne, hfree, hoperator⟩ := hparts
    have htoken : token.toList ≠ [] := by simpa using hne
    have hchars : (Segment.mk name (.key token)).chars ++ '[' :: more =
        name.toList ++ '[' :: (token.toList ++ ']' :: '[' :: more) := by
      simp [Segment.chars, Clause.chars]
    rw [hchars]
    have hbracket : '[' ≠ '.' := by decide
    exact ⟨_, by simp, .behindKey hname htoken hfree hoperator hbracket⟩
  | filter field value result =>
    obtain ⟨hfield, hvalue, hfirst, hne, hresult⟩ := hparts
    have hsome : result.toList ≠ [] := by simpa using hne
    have hchars : (Segment.mk name (.filter field value result)).chars ++ '[' :: more =
        name.toList ++ '[' :: (field.toList ++ operator ++ value.toList ++ ']' :: '.' ::
          (result.toList ++ '[' :: more)) := by
      simp [Segment.chars, Clause.chars, operator]
    rw [hchars]
    have hbracket : isNameChar '[' = false := by decide
    exact ⟨_, by simp, .behindFilter hname hfield hvalue hfirst hsome hresult hbracket⟩

/-- Brackets that hold an operator are refused, or they hold the operands of a filter. -/
theorem refused_or_operands {name body : List Char} (hname : IsName name)
    (hbody : IsUnbracketed body) (hoperator : operator <:+: body) :
    (∀ position rest, Refused position (name ++ '[' :: (body ++ ']' :: rest)) .emptyOperand) ∨
      ∃ field value, body = field ++ operator ++ value ∧ IsOperand field ∧ IsOperand value ∧
        JoinsFirst field value := by
  cases hsplit : splitOperator body with
  | none => exact absurd hoperator (splitOperator_eq_none_iff.mp hsplit)
  | some sides =>
    obtain ⟨field, value⟩ := sides
    obtain ⟨rfl, hfirst⟩ := splitOperator_eq_some hsplit
    by_cases hblank : isBlank field = true ∨ isBlank value = true
    · exact .inl fun _ _ => .emptyOperand hname hbody hfirst hblank
    · obtain ⟨hfield, hvalue⟩ := operands_of_unbracketed hbody hblank
      exact .inr ⟨field, value, rfl, hfield, hvalue, hfirst⟩

/-- Only a name can stand before the bracket, or the text would be refused for another reason. -/
theorem EndsInFilter.parse_result {text rest : String} (h : EndsInFilter text)
    (hmissing : parse (text ++ rest) = .error .missingResult) :
    ∃ p, parse (text ++ ".x") = .ok p := by
  obtain ⟨before, field, value, ⟨p, hp⟩, hfield, hvalue, rfl⟩ := h
  obtain ⟨hwell, hrender⟩ := parse_eq_ok hp
  obtain ⟨front, s, hsegments, hfront, hs⟩ := hwell.exists_concat
  let body := field.toList ++ operator ++ value.toList
  have hbefore : before.toList = leading front ++ s.chars := by
    rw [← hrender, Path.render_toList, chars, hsegments, charsOf_concat]
  have htext (more : String) :
      (before ++ "[" ++ field ++ "==" ++ value ++ "]" ++ more).toList =
        leading front ++ (s.chars ++ '[' :: (body ++ ']' :: more.toList)) := by
    simp [hbefore, body, operator]
  have honly {e : SyntaxError} (he : e ≠ .missingResult) : ¬ Refused (byteLength (leading front))
      (s.chars ++ '[' :: (body ++ ']' :: rest.toList)) e := by
    intro hrefused
    have herror := parse_eq_error_iff.mpr ⟨front, _, hfront, htext rest, hrefused⟩
    exact he (Except.error.inj (herror.symm.trans hmissing))
  have hbare : s.clause = .bare := by
    by_contra hclause
    obtain ⟨e, he, hrefused⟩ :=
      refused_bracket hs hclause (byteLength (leading front)) (body ++ ']' :: rest.toList)
    exact honly he hrefused
  have hchars : s.chars = s.name.toList := by
    rw [Segment.chars, hbare, Clause.chars, List.append_nil]
  have hbody : IsUnbracketed body := by
    constructor <;> simp [body, operator, hfield.1, hfield.2, hvalue.1, hvalue.2]
  have hoperator : operator <:+: body := ⟨field.toList, value.toList, rfl⟩
  rw [hchars] at honly htext
  rcases refused_or_operands hs.1 hbody hoperator with hempty | ⟨f, v, hjoin, hf, hv, hfirst⟩
  · exact absurd (hempty _ _) (honly (by simp))
  · have hx : IsName ['x'] := by decide
    obtain ⟨path, hpath⟩ := parse_filter hfront hs.1 hf hv hfirst (List.cons_ne_nil _ _) hx
    refine ⟨path, ?_⟩
    rw [← hpath]
    apply congrArg parse
    rw [← String.toList_inj, htext, hjoin]
    simp

/-- An error for which the end of the text is to blame. -/
def EndsEarly (text : String) (e : SyntaxError) : Prop :=
  (∃ p, e = .unclosedBracket p) ∨
    (e = .missingResult ∧
      (EndsInFilter text ∨ ∃ front, EndsInFilter front ∧ text = front ++ "."))

theorem parse_append_eq_error {text : String} {e : SyntaxError} (h : parse text = .error e)
    (hend : ¬ EndsEarly text e) (more : String) : parse (text ++ more) = .error e := by
  obtain ⟨front, fragment, hfront, htext, hrefused⟩ := parse_eq_error_iff.mp h
  obtain ⟨hclosed, hwhole⟩ := not_or.mp hend
  have hshort : e = .missingResult → ¬ CutShort fragment := by
    rintro he ⟨name, field, value, rest, hname, hfield, hvalue, hrest, rfl⟩
    have hends := endsInFilter_of_leading hfront hname hfield hvalue
    refine hwhole ⟨he, ?_⟩
    rcases hrest with rfl | rfl
    · left
      rwa [← htext, String.ofList_toList] at hends
    · right
      refine ⟨_, hends, ?_⟩
      rw [← String.toList_inj, htext]
      simp
  have hmore := hrefused.append (fun p he => hclosed ⟨p, he⟩) hshort more.toList
  refine parse_eq_error_iff.mpr ⟨front, _, hfront, ?_, hmore⟩
  rw [String.toList_append, htext, List.append_assoc]

/--
More text changes no error, but for those that the end of the text is to blame for. A closing
bracket takes away the error of an open one, and a result field makes a path of a filter that lacks
it.
-/
theorem parse_error_final (text : String) (e : SyntaxError) (h : parse text = .error e) :
    (¬ EndsEarly text e → ∀ more, parse (text ++ more) = .error e) ∧
    ((∃ p, e = .unclosedBracket p) → ∀ q, parse (text ++ "]") ≠ .error (.unclosedBracket q)) ∧
    (e = .missingResult → EndsInFilter text → ∃ path, parse (text ++ ".x") = .ok path) ∧
    (e = .missingResult → ∀ front, EndsInFilter front → text = front ++ "." →
      ∃ path, parse (text ++ "x") = .ok path) := by
  refine ⟨parse_append_eq_error h, fun _ => parse_ne_unclosed text, ?_, ?_⟩
  · rintro rfl hends
    have hmissing : parse (text ++ "") = .error .missingResult := by rwa [String.append_empty]
    exact hends.parse_result hmissing
  · rintro rfl front hends rfl
    rw [String.append_assoc]
    exact hends.parse_result h

theorem parse_error_final_dot :
    (parse "é[]" = .error .emptyKey ∧ parse ("é[]" ++ ".x[") = .error .emptyKey) ∧
      parse "é[k==v]." = .error .missingResult ∧ ∃ path, parse ("é[k==v]." ++ "x") = .ok path := by
  have hfront : CanLead [] := by simp [CanLead]
  have hname : IsName ['é'] := by decide
  have hempty : parse "é[]" = .error .emptyKey :=
    parse_eq_error_iff.mpr ⟨[], _, hfront, rfl, .emptyKey hname⟩
  have hkey : IsOperand ['k'] := by decide
  have hvalue : IsOperand ['v'] := by decide
  have hlacks : LacksResult ['.'] := by simp [LacksResult, Stops]
  have hmissing : parse "é[k==v]." = .error .missingResult :=
    parse_eq_error_iff.mpr
      ⟨[], _, hfront, rfl, .noResult hname hkey hvalue (by decide) hlacks⟩
  have hearly : ¬ EndsEarly "é[]" .emptyKey := by simp [EndsEarly]
  have hends : EndsInFilter "é[k==v]" := endsInFilter_of_leading hfront hname hkey hvalue
  exact ⟨⟨hempty, (parse_error_final _ _ hempty).1 hearly _⟩, hmissing,
    (parse_error_final _ _ hmissing).2.2.2 rfl _ hends rfl⟩

end ObjectPath.Path
