import ObjectPath.Proofs.Json.Numbers
import ObjectPath.Proofs.Json.Reading
import ObjectPath.Proofs.Json.Strings

/-! Documents without floats are read back from their compact text. -/
namespace ObjectPath.Json

inductive FloatFree : Json → Prop
  | null : FloatFree null
  | bool (b : Bool) : FloatFree (bool b)
  | integer (i : Int) (hi : IsInteger i) : FloatFree (number (.integer i hi))
  | string (s : String) : FloatFree (string s)
  | array {items : List Json} (h : ∀ x ∈ items, FloatFree x) : FloatFree (array items)
  | object {members : List (String × Json)} (h : ∀ m ∈ members, FloatFree m.2) :
    FloatFree (object members)

/-- What may follow a document: the end of the text, or what comes next in an array or object. -/
def Delimited (rest : List Char) : Prop := ∀ c ∈ rest.head?, c = ',' ∨ c = ']' ∨ c = '\x7d'

theorem Delimited.endsNumber {rest : List Char} (h : Delimited rest) : EndsNumber rest := by
  intro c hc
  rcases h c hc with rfl | rfl | rfl <;> decide

theorem skipGaps_cons {c : Char} (hc : isGap c = false) (cs : List Char) :
    skipGaps (c :: cs) = c :: cs := by
  simp [skipGaps, hc]

theorem ne_of_isDigit {c d : Char} (hc : c.isDigit = true) (hd : d.isDigit = false) : c ≠ d := by
  intro he
  rw [he, hd] at hc
  exact absurd hc (by decide)

theorem isGap_of_isDigit {c : Char} (hc : c.isDigit = true) : isGap c = false := by
  have hspace : c ≠ ' ' := ne_of_isDigit hc (by decide)
  have hline : c ≠ '\n' := ne_of_isDigit hc (by decide)
  have htab : c ≠ '\t' := ne_of_isDigit hc (by decide)
  have hreturn : c ≠ '\r' := ne_of_isDigit hc (by decide)
  simp [isGap, hspace, hline, htab, hreturn]

theorem readValue_digit {c : Char} (hc : c.isDigit = true) (depth : Nat) (cs : List Char) :
    readValue depth (c :: cs) =
      (readNumber false (c :: cs)).map fun (n, rest) => (number n, rest) := by
  rw [readValue, skipGaps_cons (isGap_of_isDigit hc)]
  split
  case h_1 heq => simp at heq
  case h_9 heq =>
    obtain ⟨rfl, rfl⟩ := List.cons.inj heq
    rw [if_pos hc]
  all_goals
    rename_i heq
    obtain ⟨rfl, -⟩ := List.cons.inj heq
    exact absurd hc (by decide)

theorem exists_digit (n : Nat) : ∃ c cs, Numeral.digits n = c :: cs ∧ c.isDigit = true := by
  have hne : Numeral.digits n ≠ [] := Nat.toDigits_ne_nil
  obtain ⟨c, cs, hcs⟩ := List.exists_cons_of_ne_nil hne
  exact ⟨c, cs, hcs, Numeral.isDigit_of_mem_digits (hcs ▸ List.mem_cons_self)⟩

theorem readValue_integer {i : Int} (hi : IsInteger i) {rest : List Char} (hrest : EndsNumber rest)
    (depth : Nat) :
    readValue depth (Numeral.intDigits i ++ rest) = .ok (number (.integer i hi), rest) := by
  have hread := readNumber_natAbs hi hrest
  by_cases hneg : i < 0
  · rw [decide_eq_true hneg] at hread
    rw [Numeral.intDigits, if_pos hneg, List.cons_append, readValue, skipGaps_cons (by decide)]
    simp only [hread, Except.map]
  · rw [decide_eq_false hneg] at hread
    rw [Numeral.intDigits, if_neg hneg]
    obtain ⟨c, cs, hcs, hc⟩ := exists_digit i.natAbs
    rw [hcs, List.cons_append] at hread ⊢
    rw [readValue_digit hc, hread]
    rfl

theorem readValue_string (s : String) (depth : Nat) (rest : List Char) :
    readValue depth (stringChars s ++ rest) = .ok (string s, rest) := by
  have hchars : stringChars s ++ rest = '"' :: (s.toList.flatMap escapeChar ++ '"' :: rest) := by
    simp [stringChars]
  rw [hchars, readValue, skipGaps_cons (by decide)]
  simp only [readString_stringChars, Except.map]

/-- Something comes next, and it does not close the array or object that is read. -/
def Continues (close : Char) (cs : List Char) : Prop :=
  ∃ c tail, cs = c :: tail ∧ isGap c = false ∧ c ≠ close

theorem FloatFree.continues {j : Json} (h : FloatFree j) (rest : List Char) :
    Continues ']' (j.chars ++ rest) := by
  cases h with
  | null => exact ⟨'n', _, rfl, by decide, by decide⟩
  | bool b => cases b <;> exact ⟨_, _, rfl, by decide, by decide⟩
  | integer i hi =>
    rw [chars, Number.chars, Numeral.intDigits]
    split
    · exact ⟨'-', _, rfl, by decide, by decide⟩
    · obtain ⟨c, cs, hcs, hc⟩ := exists_digit i.natAbs
      refine ⟨c, cs ++ rest, ?_, isGap_of_isDigit hc, ne_of_isDigit hc (by decide)⟩
      rw [hcs, List.cons_append]
  | string s => exact ⟨'"', _, rfl, by decide, by decide⟩
  | @array items h => cases items <;> exact ⟨'[', _, rfl, by decide, by decide⟩
  | @object members h => cases members <;> exact ⟨'\x7b', _, rfl, by decide, by decide⟩

theorem delimited_moreItems (xs : List Json) (rest : List Char) :
    Delimited (moreItems xs ++ rest) := by
  cases xs <;> simp [Delimited, moreItems]

theorem delimited_moreMembers (ms : List (String × Json)) (rest : List Char) :
    Delimited (moreMembers ms ++ rest) := by
  cases ms <;> simp [Delimited, moreMembers]

theorem length_lt_moreItems (xs : List Json) : xs.length < (moreItems xs).length := by
  induction xs with
  | nil => simp [moreItems]
  | cons x xs ih =>
    simp only [moreItems, List.length_cons, List.length_append]
    omega

theorem length_lt_moreMembers (ms : List (String × Json)) :
    ms.length < (moreMembers ms).length := by
  induction ms with
  | nil => simp [moreMembers]
  | cons m ms ih =>
    simp only [moreMembers, List.length_cons, List.length_append]
    omega

section Containers

variable {value : Reader Json}

/-- A reader that gives back documents which are delimited by what follows them. -/
def ReadsBack (value : Reader Json) (j : Json) : Prop :=
  ∀ rest, Delimited rest → value (j.chars ++ rest) = .ok (j, rest)

theorem readItems_of_continues {cs : List Char} (h : Continues ']' cs) :
    readItems value cs = (do
      let (x, rest) ← value cs
      let (xs, rest) ← readMoreItems value (rest.length + 1) rest
      return (x :: xs, rest)) := by
  obtain ⟨c, tail, rfl, hgap, hne⟩ := h
  rw [readItems, skipGaps_cons hgap]
  split
  case h_1 heq => simp at heq
  case h_2 heq => exact absurd (List.cons.inj heq).1 hne
  case h_3 => rfl

theorem readMoreItems_comma {cs : List Char} (h : Continues ']' cs) (count : Nat) :
    readMoreItems value (count + 1) (',' :: cs) = (do
      let (x, rest) ← value cs
      let (xs, rest) ← readMoreItems value count rest
      return (x :: xs, rest)) := by
  obtain ⟨c, tail, rfl, hgap, hne⟩ := h
  rw [readMoreItems, skipGaps_cons (by decide)]
  simp only
  rw [skipGaps_cons hgap]
  split
  case h_1 heq => simp at heq
  case h_2 heq => exact absurd (List.cons.inj heq).1 hne
  case h_3 => rfl

theorem readMoreItems_moreItems {xs : List Json}
    (hnext : ∀ x ∈ xs, ∀ rest, Continues ']' (x.chars ++ rest)) (hvalue : ∀ x ∈ xs, ReadsBack value x)
    {count : Nat} (hcount : xs.length < count) (rest : List Char) :
    readMoreItems value count (moreItems xs ++ rest) = .ok (xs, rest) := by
  induction xs generalizing count with
  | nil =>
    obtain ⟨count, rfl⟩ := Nat.exists_eq_add_one.mpr hcount
    rw [moreItems, readMoreItems, List.cons_append, skipGaps_cons (by decide)]
    rfl
  | cons x xs ih =>
    obtain ⟨hfirst, htail⟩ := List.forall_mem_cons.mp hnext
    obtain ⟨hx, hxs⟩ := List.forall_mem_cons.mp hvalue
    obtain ⟨count, rfl⟩ := Nat.exists_eq_add_one.mpr (Nat.zero_lt_of_lt hcount)
    have htext : moreItems (x :: xs) ++ rest = ',' :: (x.chars ++ (moreItems xs ++ rest)) := by
      simp [moreItems]
    have hread := hx _ (delimited_moreItems xs rest)
    have hmore := ih htail hxs (Nat.lt_of_succ_lt_succ hcount)
    rw [htext, readMoreItems_comma (hfirst _), hread]
    simp only [bind, Except.bind, hmore, pure, Except.pure]

theorem readItems_array {xs : List Json} (hnext : ∀ x ∈ xs, ∀ rest, Continues ']' (x.chars ++ rest))
    (hvalue : ∀ x ∈ xs, ReadsBack value x) (rest : List Char) :
    ∃ tail, (array xs).chars ++ rest = '[' :: tail ∧ readItems value tail = .ok (xs, rest) := by
  cases xs with
  | nil =>
    refine ⟨']' :: rest, rfl, ?_⟩
    rw [readItems, skipGaps_cons (by decide)]
    rfl
  | cons x xs =>
    obtain ⟨hfirst, htail⟩ := List.forall_mem_cons.mp hnext
    obtain ⟨hx, hxs⟩ := List.forall_mem_cons.mp hvalue
    have hlength : xs.length < (moreItems xs ++ rest).length + 1 := by
      have hlt := length_lt_moreItems xs
      rw [List.length_append]
      omega
    have hread := hx _ (delimited_moreItems xs rest)
    have hmore := readMoreItems_moreItems htail hxs hlength rest
    refine ⟨x.chars ++ (moreItems xs ++ rest), by simp [chars], ?_⟩
    rw [readItems_of_continues (hfirst _), hread]
    simp only [bind, Except.bind, hmore, pure, Except.pure]

theorem readMember_append {key : String} {x : Json} (hx : ReadsBack value x) {rest : List Char}
    (hrest : Delimited rest) :
    readMember value (stringChars key ++ ':' :: (x.chars ++ rest)) = .ok ((key, x), rest) := by
  have htext : stringChars key ++ ':' :: (x.chars ++ rest) =
      '"' :: (key.toList.flatMap escapeChar ++ '"' :: ':' :: (x.chars ++ rest)) := by
    simp [stringChars]
  have hcolon : skipGaps (':' :: (x.chars ++ rest)) = ':' :: (x.chars ++ rest) :=
    skipGaps_cons (by decide) _
  have hread := hx rest hrest
  rw [htext, readMember, readString_stringChars]
  simp only [bind, Except.bind, hcolon, hread, pure, Except.pure]

theorem continues_stringChars (key : String) (rest : List Char) :
    Continues '\x7d' (stringChars key ++ rest) :=
  ⟨'"', _, rfl, by decide, by decide⟩

theorem readMembers_of_continues {cs : List Char} (h : Continues '\x7d' cs) :
    readMembers value cs = (do
      let (m, rest) ← readMember value cs
      let (ms, rest) ← readMoreMembers value (rest.length + 1) rest
      return (m :: ms, rest)) := by
  obtain ⟨c, tail, rfl, hgap, hne⟩ := h
  rw [readMembers, skipGaps_cons hgap]
  split
  case h_1 heq => simp at heq
  case h_2 heq => exact absurd (List.cons.inj heq).1 hne
  case h_3 => rfl

theorem readMoreMembers_comma {cs : List Char} (h : Continues '\x7d' cs) (count : Nat) :
    readMoreMembers value (count + 1) (',' :: cs) = (do
      let (m, rest) ← readMember value cs
      let (ms, rest) ← readMoreMembers value count rest
      return (m :: ms, rest)) := by
  obtain ⟨c, tail, rfl, hgap, hne⟩ := h
  rw [readMoreMembers, skipGaps_cons (by decide)]
  simp only
  rw [skipGaps_cons hgap]
  split
  case h_1 heq => simp at heq
  case h_2 heq => exact absurd (List.cons.inj heq).1 hne
  case h_3 => rfl

theorem readMoreMembers_moreMembers {ms : List (String × Json)}
    (hvalue : ∀ m ∈ ms, ReadsBack value m.2) {count : Nat} (hcount : ms.length < count)
    (rest : List Char) :
    readMoreMembers value count (moreMembers ms ++ rest) = .ok (ms, rest) := by
  induction ms generalizing count with
  | nil =>
    obtain ⟨count, rfl⟩ := Nat.exists_eq_add_one.mpr hcount
    rw [moreMembers, readMoreMembers, List.cons_append, skipGaps_cons (by decide)]
    rfl
  | cons m ms ih =>
    obtain ⟨key, x⟩ := m
    obtain ⟨hx, hms⟩ := List.forall_mem_cons.mp hvalue
    obtain ⟨count, rfl⟩ := Nat.exists_eq_add_one.mpr (Nat.zero_lt_of_lt hcount)
    have htext : moreMembers ((key, x) :: ms) ++ rest =
        ',' :: (stringChars key ++ ':' :: (x.chars ++ (moreMembers ms ++ rest))) := by
      simp [moreMembers]
    have hmore := ih hms (Nat.lt_of_succ_lt_succ hcount)
    rw [htext, readMoreMembers_comma (continues_stringChars key _),
      readMember_append hx (delimited_moreMembers ms rest)]
    simp only [bind, Except.bind, hmore, pure, Except.pure]

theorem readMembers_object {ms : List (String × Json)} (hvalue : ∀ m ∈ ms, ReadsBack value m.2)
    (rest : List Char) :
    ∃ tail, (object ms).chars ++ rest = '\x7b' :: tail ∧ readMembers value tail = .ok (ms, rest) := by
  cases ms with
  | nil =>
    refine ⟨'\x7d' :: rest, rfl, ?_⟩
    rw [readMembers, skipGaps_cons (by decide)]
    rfl
  | cons m ms =>
    obtain ⟨key, x⟩ := m
    obtain ⟨hx, hms⟩ := List.forall_mem_cons.mp hvalue
    have hlength : ms.length < (moreMembers ms ++ rest).length + 1 := by
      have hlt := length_lt_moreMembers ms
      rw [List.length_append]
      omega
    have hmore := readMoreMembers_moreMembers hms hlength rest
    refine ⟨stringChars key ++ ':' :: (x.chars ++ (moreMembers ms ++ rest)), by simp [chars], ?_⟩
    rw [readMembers_of_continues (continues_stringChars key _),
      readMember_append hx (delimited_moreMembers ms rest)]
    simp only [bind, Except.bind, hmore, pure, Except.pure]

end Containers

/-- The induction is on the document; what follows an item or a member delimits it. -/
theorem readsBack_of_fits {depth : Nat} {j : Json} (h : Fits depth j) (hfree : FloatFree j) :
    ReadsBack (readValue depth) j := by
  induction h with
  | @scalar depth j h =>
    intro rest hrest
    cases hfree with
    | null =>
      rw [chars, List.cons_append, readValue, skipGaps_cons (by decide)]
      rfl
    | bool b =>
      cases b <;>
      · rw [chars, List.cons_append, readValue, skipGaps_cons (by decide)]
        rfl
    | integer i hi => exact readValue_integer hi hrest.endsNumber depth
    | string s => exact readValue_string s depth rest
    | array _ => exact absurd h Bool.false_ne_true
    | object _ => exact absurd h Bool.false_ne_true
  | @array depth xs _ ih =>
    cases hfree with
    | array hxs =>
      intro rest _
      obtain ⟨tail, htext, hread⟩ :=
        readItems_array (fun x hx => (hxs x hx).continues) (fun x hx => ih x hx (hxs x hx)) rest
      rw [htext, readValue, skipGaps_cons (by decide)]
      simp only [hread, Except.map]
  | @object depth ms hkeys _ ih =>
    cases hfree with
    | object hms =>
      intro rest _
      obtain ⟨tail, htext, hread⟩ := readMembers_object (fun m hm => ih m hm (hms m hm)) rest
      rw [htext, readValue, skipGaps_cons (by decide)]
      simp only [hread, Except.map, ofMembers, Entries.ofList_of_nodup hkeys]

/-- A document without floats that the reader can give is read back from its text. -/
theorem parse_render {j : Json} (h : Fits maxDepth j) (hfree : FloatFree j) :
    parse j.render = .ok j := by
  have hread : readValue maxDepth (j.chars ++ []) = .ok (j, []) :=
    readsBack_of_fits h hfree [] (by simp [Delimited])
  rw [List.append_nil] at hread
  rw [parse, render_toList, readDocument, hread]
  rfl

end ObjectPath.Json
