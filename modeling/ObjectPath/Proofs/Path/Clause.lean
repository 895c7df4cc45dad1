import Mathlib.Data.List.TakeWhile
import ObjectPath.Proofs.Path.Grammar

/-! What the readers of names, clauses and separators accept. -/
namespace ObjectPath.Path

open ObjectPath.Text

/-- A text that does not go on with a name: it ends, or a dot or a bracket comes next. -/
def Stops (cs : List Char) : Prop := ∀ c ∈ cs.head?, isNameChar c = false

theorem isName_iff {cs : List Char} : IsName cs ↔ ∀ c ∈ cs, isNameChar c = true := by
  simp only [isNameChar, Bool.and_eq_true, bne_iff_ne, ne_eq]
  constructor
  · intro ⟨hdot, hopen, hclose⟩ c hc
    exact ⟨⟨fun h => hdot (h ▸ hc), fun h => hopen (h ▸ hc)⟩, fun h => hclose (h ▸ hc)⟩
  · intro h
    exact ⟨fun hc => (h _ hc).1.1 rfl, fun hc => (h _ hc).1.2 rfl, fun hc => (h _ hc).2 rfl⟩

theorem takeWhile_name {name rest : List Char} (hname : IsName name) (hrest : Stops rest) :
    (name ++ rest).takeWhile isNameChar = name := by
  rw [List.takeWhile_append_of_pos (isName_iff.mp hname)]
  cases rest with
  | nil => simp
  | cons c tail =>
    have hc := hrest c rfl
    simp [hc]

theorem dropWhile_name {name rest : List Char} (hname : IsName name) (hrest : Stops rest) :
    (name ++ rest).dropWhile isNameChar = rest := by
  rw [List.dropWhile_append_of_pos (isName_iff.mp hname)]
  cases rest with
  | nil => rfl
  | cons c tail =>
    have hc := hrest c rfl
    simp [hc]

/-- Every text is a name with something behind it. -/
theorem exists_name (cs : List Char) : ∃ name rest, cs = name ++ rest ∧ IsName name ∧ Stops rest := by
  refine ⟨cs.takeWhile isNameChar, cs.dropWhile isNameChar, ?_, ?_, ?_⟩
  · exact List.takeWhile_append_dropWhile.symm
  · rw [isName_iff]
    intro c hc
    exact List.mem_takeWhile_imp hc
  · intro c hc
    have hne : cs.dropWhile isNameChar ≠ [] := by
      intro h
      simp [h] at hc
    have hhead := List.head_dropWhile_not isNameChar hne
    rw [List.head?_eq_some_head hne, Option.mem_some_iff] at hc
    rwa [hc] at hhead

theorem readSegment_clause {name : List Char} (hname : IsName name) (text : List Char)
    (position : Nat) :
    readSegment ⟨position, name ++ '[' :: text⟩ =
      readClause name (position + byteLength name) text := by
  have hstop : Stops ('[' :: text) := by simp [Stops, isNameChar]
  simp only [readSegment, Cursor.name, takeWhile_name hname hstop, dropWhile_name hname hstop]

theorem readSegment_field {name rest : List Char} (hname : IsName name) (hrest : Stops rest)
    (hopen : ∀ text, rest ≠ '[' :: text) (position : Nat) :
    readSegment ⟨position, name ++ rest⟩ =
      readSeparator (.field (String.ofList name)) ⟨position + byteLength name, rest⟩ := by
  simp only [readSegment, Cursor.name, takeWhile_name hname hrest, dropWhile_name hname hrest]

theorem bne_of_notMem {stop : Char} {cs : List Char} (h : stop ∉ cs) :
    ∀ c ∈ cs, (c != stop) = true := by
  intro c hc
  rw [bne_iff_ne]
  intro he
  exact h (he ▸ hc)

theorem takeWhile_bne {stop : Char} {body rest : List Char} (h : stop ∉ body) :
    (body ++ stop :: rest).takeWhile (· != stop) = body := by
  rw [List.takeWhile_append_of_pos (bne_of_notMem h)]
  simp

theorem dropWhile_bne {stop : Char} {body rest : List Char} (h : stop ∉ body) :
    (body ++ stop :: rest).dropWhile (· != stop) = stop :: rest := by
  rw [List.dropWhile_append_of_pos (bne_of_notMem h)]
  simp

theorem readClause_unclosed {text : List Char} (h : ']' ∉ text) (name : List Char) (opening : Nat) :
    readClause name opening text = .error (.unclosedBracket opening) := by
  have hdrop : text.dropWhile (· != ']') = [] :=
    List.dropWhile_eq_nil_iff.mpr (bne_of_notMem h)
  simp only [readClause, hdrop]

theorem readClause_closed {body : List Char} (h : ']' ∉ body) (name rest : List Char)
    (opening : Nat) :
    readClause name opening (body ++ ']' :: rest) =
      if '[' ∈ body then
        .error (.unexpected '[' (opening + 1 + byteLength (body.takeWhile (· != '['))))
      else match splitOperator body with
        | some (field, value) =>
          if isBlank field || isBlank value then .error .emptyOperand
          else readResult name field value rest
        | none =>
          if body.isEmpty then .error .emptyKey
          else readSeparator (.key (String.ofList name) (String.ofList body))
            ⟨opening + 1 + byteLength body + 1, rest⟩ := by
  cases hsplit : splitOperator body with
  | none => simp only [readClause, takeWhile_bne h, dropWhile_bne h, hsplit]
  | some operands => simp only [readClause, takeWhile_bne h, dropWhile_bne h, hsplit]

/-- What stands behind a segment: nothing, or a dot and the text from the next place on. -/
def behind : Option Cursor → List Char
  | none => []
  | some c => '.' :: c.rest

theorem stops_behind (next : Option Cursor) : Stops (behind next) := by
  cases next with
  | none => simp [Stops, behind]
  | some c => simp [Stops, behind, isNameChar]

theorem readSeparator_eq_ok_iff {s t : Segment} {c : Cursor} {next : Option Cursor} :
    readSeparator s c = .ok (t, next) ↔
      t = s ∧ c.rest = behind next ∧ ∀ d ∈ next, d.position = c.position + 1 := by
  obtain ⟨position, rest⟩ := c
  unfold readSeparator
  split
  · rename_i hrest
    cases next with
    | none => simp_all [behind, eq_comm]
    | some d => simp_all [behind]
  · rename_i tail hrest
    cases next with
    | none => simp_all [behind]
    | some d =>
      obtain ⟨p, cs⟩ := d
      simp only at hrest
      subst hrest
      simp only [Except.ok.injEq, Prod.mk.injEq, Option.some.injEq, Cursor.mk.injEq, behind,
        List.cons.injEq, true_and, Option.mem_some_iff, forall_eq']
      constructor
      · intro h
        obtain ⟨rfl, rfl, rfl⟩ := h
        exact ⟨rfl, rfl, rfl⟩
      · intro h
        obtain ⟨rfl, rfl, rfl⟩ := h
        exact ⟨rfl, rfl, rfl⟩
  · rename_i char tail hdot hrest
    simp only at hrest
    subst hrest
    cases next with
    | none => simp [behind]
    | some d =>
      simp only [behind, List.cons.injEq, reduceCtorEq, false_iff]
      intro ⟨_, hdot', _⟩
      exact hdot hdot'.1

theorem readResult_dot {result more : List Char} (hresult : IsName result) (hmore : Stops more)
    (name field value : List Char) :
    readResult name field value ('.' :: (result ++ more)) =
      if result = [] then .error .missingResult
      else if more = [] then
        .ok (.filter (String.ofList name) (String.ofList field) (String.ofList value)
          (String.ofList result), none)
      else .error .trailingAfterFilter := by
  simp only [readResult, takeWhile_name hresult hmore, dropWhile_name hresult hmore,
    List.isEmpty_iff]

theorem readResult_eq_ok_iff {name field value rest : List Char} {s : Segment}
    {next : Option Cursor} :
    readResult name field value rest = .ok (s, next) ↔
      next = none ∧ ∃ result, result ≠ [] ∧ IsName result ∧ rest = '.' :: result ∧
        s = .filter (String.ofList name) (String.ofList field) (String.ofList value)
          (String.ofList result) := by
  constructor
  · intro h
    unfold readResult at h
    split at h
    · rename_i tail
      obtain ⟨result, more, rfl, hresult, hmore⟩ := exists_name tail
      simp only [takeWhile_name hresult hmore, dropWhile_name hresult hmore] at h
      split at h
      · simp at h
      · rename_i hne
        split at h
        · rename_i hnil
          subst hnil
          simp only [Except.ok.injEq, Prod.mk.injEq] at h
          obtain ⟨rfl, rfl⟩ := h
          refine ⟨rfl, result, ?_, hresult, by rw [List.append_nil], rfl⟩
          intro hempty
          exact hne (by rw [hempty]; rfl)
        · simp at h
    · simp at h
  · intro h
    obtain ⟨rfl, result, hne, hresult, rfl, rfl⟩ := h
    have hstop : Stops [] := by simp [Stops]
    have htake := takeWhile_name hresult hstop
    have hdrop := dropWhile_name hresult hstop
    rw [List.append_nil] at htake hdrop
    have hempty : result.isEmpty = false := List.isEmpty_eq_false_iff.mpr hne
    simp only [readResult, htake, hdrop, hempty]
    rfl

theorem isBlank_eq_false_iff {cs : List Char} :
    isBlank cs = false ↔ ∃ c ∈ cs, isBlankChar c = false := by
  simp [isBlank]

theorem operands_of_unbracketed {field value : List Char}
    (hbody : IsUnbracketed (field ++ operator ++ value))
    (hblank : ¬ (isBlank field = true ∨ isBlank value = true)) :
    IsOperand field ∧ IsOperand value := by
  obtain ⟨hopen, hclose⟩ := hbody
  simp only [List.mem_append, not_or] at hopen hclose
  rw [not_or, Bool.not_eq_true, Bool.not_eq_true, isBlank_eq_false_iff, isBlank_eq_false_iff]
    at hblank
  exact ⟨⟨⟨hopen.1.1, hclose.1.1⟩, hblank.1⟩, ⟨hopen.2, hclose.2⟩, hblank.2⟩

theorem readClause_key {token : List Char} (hne : token ≠ []) (hfree : IsUnbracketed token)
    (hoperator : ¬ operator <:+: token) (name rest : List Char) (opening : Nat) :
    readClause name opening (token ++ ']' :: rest) =
      readSeparator (.key (String.ofList name) (String.ofList token))
        ⟨opening + 1 + byteLength token + 1, rest⟩ := by
  have hempty : token.isEmpty = false := List.isEmpty_eq_false_iff.mpr hne
  rw [readClause_closed hfree.2, if_neg hfree.1, splitOperator_eq_none_iff.mpr hoperator]
  simp only [hempty]
  rfl

theorem readClause_filter {field value : List Char} (hfield : IsOperand field)
    (hvalue : IsOperand value) (hfirst : JoinsFirst field value) (name rest : List Char)
    (opening : Nat) :
    readClause name opening (field ++ operator ++ value ++ ']' :: rest) =
      readResult name field value rest := by
  have hopen : '[' ∉ field ++ operator ++ value := by
    simp [hfield.1.1, hvalue.1.1, operator]
  have hclose : ']' ∉ field ++ operator ++ value := by
    simp [hfield.1.2, hvalue.1.2, operator]
  have hsplit : splitOperator (field ++ operator ++ value) = some (field, value) :=
    splitOperator_eq_some_iff.mpr ⟨rfl, hfirst⟩
  rw [readClause_closed hclose, if_neg hopen, hsplit]
  simp only [isBlank_eq_false_iff.mpr hfield.2, isBlank_eq_false_iff.mpr hvalue.2]
  rfl

/-- A clause that is accepted is a key, or the comparison of a filter, up to its bracket. -/
theorem readClause_eq_ok {name text : List Char} {opening : Nat} {step : Step}
    (h : readClause name opening text = .ok step) :
    (∃ token rest, token ≠ [] ∧ IsUnbracketed token ∧ ¬ operator <:+: token ∧
      text = token ++ ']' :: rest ∧
      readSeparator (.key (String.ofList name) (String.ofList token))
        ⟨opening + 1 + byteLength token + 1, rest⟩ = .ok step) ∨
    (∃ field value rest, IsOperand field ∧ IsOperand value ∧ JoinsFirst field value ∧
      text = field ++ operator ++ value ++ ']' :: rest ∧
      readResult name field value rest = .ok step) := by
  by_cases hclose : ']' ∈ text
  · obtain ⟨body, rest, rfl, hbody⟩ := List.eq_append_cons_of_mem hclose
    rw [readClause_closed hbody] at h
    split at h
    · simp at h
    · rename_i hopen
      split at h
      · rename_i field value hsplit
        split at h
        · simp at h
        · rename_i hblank
          obtain ⟨rfl, hfirst⟩ := splitOperator_eq_some hsplit
          rw [Bool.or_eq_true] at hblank
          obtain ⟨hfield, hvalue⟩ := operands_of_unbracketed ⟨hopen, hbody⟩ hblank
          exact .inr ⟨field, value, rest, hfield, hvalue, hfirst, rfl, h⟩
      · rename_i hsplit
        split at h
        · simp at h
        · rename_i hempty
          refine .inl ⟨body, rest, ?_, ⟨hopen, hbody⟩, splitOperator_eq_none_iff.mp hsplit, rfl, h⟩
          intro hnil
          exact hempty (List.isEmpty_iff.mpr hnil)
  · rw [readClause_unclosed hclose] at h
    simp at h

end ObjectPath.Path
