import Mathlib.Data.List.Induction
import Mathlib.Data.List.Nodup
import ObjectPath.Entries

/-! What is found under a key in lists of entries that are rearranged, mapped or built. -/
namespace ObjectPath.Entries

variable {κ α : Type} [DecidableEq κ]

theorem find?_append (key : κ) (front back : List (κ × α)) :
    find? key (front ++ back) = (find? key front).or (find? key back) := by
  induction front with
  | nil => rfl
  | cons e rest ih =>
    obtain ⟨k, v⟩ := e
    by_cases h : k = key <;> simp [find?, h, ih]

theorem mem_of_find? {key : κ} {value : α} {entries : List (κ × α)}
    (h : find? key entries = some value) : (key, value) ∈ entries := by
  induction entries with
  | nil => simp [find?] at h
  | cons e rest ih =>
    obtain ⟨k, v⟩ := e
    by_cases hk : k = key
    · subst hk
      have hvalue : v = value := by simpa [find?] using h
      rw [hvalue]
      exact List.mem_cons_self
    · have hrest : find? key rest = some value := by simpa [find?, hk] using h
      exact List.mem_cons_of_mem _ (ih hrest)

theorem exists_find? {key : κ} {entries : List (κ × α)} (h : key ∈ entries.map Prod.fst) :
    ∃ value, find? key entries = some value := by
  induction entries with
  | nil => exact absurd h List.not_mem_nil
  | cons e rest ih =>
    obtain ⟨k, v⟩ := e
    by_cases hk : k = key
    · exact ⟨v, if_pos hk⟩
    · rw [find?, if_neg hk]
      exact ih ((List.mem_cons.mp h).resolve_left (Ne.symm hk))

theorem find?_eq_none {key : κ} {entries : List (κ × α)} (h : key ∉ entries.map Prod.fst) :
    find? key entries = none := by
  rw [Option.eq_none_iff_forall_ne_some]
  intro value hvalue
  exact h (List.mem_map.mpr ⟨(key, value), mem_of_find? hvalue, rfl⟩)

theorem exists_find?_iff {key : κ} {entries : List (κ × α)} :
    (∃ value, find? key entries = some value) ↔ key ∈ entries.map Prod.fst := by
  constructor
  · rintro ⟨value, hfind⟩
    exact List.mem_map.mpr ⟨(key, value), mem_of_find? hfind, rfl⟩
  · exact exists_find?

def IsFirst (key : κ) (value : α) (entries : List (κ × α)) : Prop :=
  ∃ before after, entries = before ++ (key, value) :: after ∧ key ∉ before.map Prod.fst

def IsLast (key : κ) (value : α) (entries : List (κ × α)) : Prop :=
  ∃ before after, entries = before ++ (key, value) :: after ∧ key ∉ after.map Prod.fst

theorem find?_eq_some_iff_isFirst {key : κ} {value : α} {entries : List (κ × α)} :
    find? key entries = some value ↔ IsFirst key value entries := by
  constructor
  · intro h
    induction entries with
    | nil => simp [find?] at h
    | cons e rest ih =>
      obtain ⟨k, v⟩ := e
      by_cases hk : k = key
      · subst hk
        have hvalue : v = value := by simpa [find?] using h
        subst hvalue
        exact ⟨[], rest, rfl, List.not_mem_nil⟩
      · have hrest : find? key rest = some value := by simpa [find?, hk] using h
        obtain ⟨before, after, rfl, hfresh⟩ := ih hrest
        refine ⟨(k, v) :: before, after, rfl, ?_⟩
        rw [List.map_cons, List.mem_cons, not_or]
        exact ⟨Ne.symm hk, hfresh⟩
  · rintro ⟨before, after, rfl, hfresh⟩
    rw [find?_append, find?_eq_none hfresh, Option.none_or, find?, if_pos rfl]

/-- The last value is the first one from behind. -/
theorem find?_reverse_eq_some_iff_isLast {key : κ} {value : α} {entries : List (κ × α)} :
    find? key entries.reverse = some value ↔ IsLast key value entries := by
  rw [find?_eq_some_iff_isFirst]
  constructor
  · rintro ⟨before, after, hentries, hfresh⟩
    refine ⟨after.reverse, before.reverse, ?_, ?_⟩
    · rw [← List.reverse_reverse entries, hentries]
      simp
    · rwa [List.map_reverse, List.mem_reverse]
  · rintro ⟨before, after, rfl, hfresh⟩
    refine ⟨after.reverse, before.reverse, by simp, ?_⟩
    rwa [List.map_reverse, List.mem_reverse]

theorem exists_find?_reverse_iff (key : κ) (entries : List (κ × α)) :
    (∃ value, find? key entries.reverse = some value) ↔ ∃ value, find? key entries = some value := by
  rw [exists_find?_iff, exists_find?_iff, List.map_reverse, List.mem_reverse]

/-- A key that is given once has one value, whatever is given for others. -/
theorem eq_of_count_le_one {entries : List (κ × α)} {key : κ}
    (hcount : (entries.map Prod.fst).count key ≤ 1) {a b : α} (ha : (key, a) ∈ entries)
    (hb : (key, b) ∈ entries) : a = b := by
  induction entries with
  | nil => exact absurd ha List.not_mem_nil
  | cons e rest ih =>
    obtain ⟨k, v⟩ := e
    rw [List.map_cons] at hcount
    by_cases hk : k = key
    · subst hk
      rw [List.count_cons_self] at hcount
      have hfresh : ∀ c, (k, c) ∉ rest := by
        intro c hc
        have hpos : 0 < (rest.map Prod.fst).count k :=
          List.count_pos_iff.mpr (List.mem_map.mpr ⟨(k, c), hc, rfl⟩)
        omega
      have hvalue : ∀ {c}, (k, c) ∈ (k, v) :: rest → c = v := by
        intro c hc
        exact (Prod.mk.inj ((List.mem_cons.mp hc).resolve_right (hfresh c))).2
      rw [hvalue ha, hvalue hb]
    · have hne : ∀ c, (key, c) ≠ (k, v) := fun c h => hk (Prod.mk.inj h).1.symm
      rw [List.count_cons_of_ne hk] at hcount
      exact ih hcount ((List.mem_cons.mp ha).resolve_left (hne a))
        ((List.mem_cons.mp hb).resolve_left (hne b))

/-- Where keys are distinct, each entry is found under its key. -/
theorem find?_eq_some_iff {entries : List (κ × α)} (hnodup : (entries.map Prod.fst).Nodup)
    {key : κ} {value : α} : find? key entries = some value ↔ (key, value) ∈ entries := by
  constructor
  · exact mem_of_find?
  · intro hmem
    induction entries with
    | nil => exact absurd hmem List.not_mem_nil
    | cons e rest ih =>
      obtain ⟨k, v⟩ := e
      obtain ⟨hfresh, hrest⟩ := List.nodup_cons.mp hnodup
      by_cases hk : k = key
      · subst hk
        have hother : (k, value) ∉ rest := fun hin =>
          hfresh (List.mem_map.mpr ⟨(k, value), hin, rfl⟩)
        have hvalue : value = v := by simpa [hother] using hmem
        simp [find?, hvalue]
      · have hin : (key, value) ∈ rest := by
          have hne : key ≠ k := fun h => hk h.symm
          simpa [hne] using hmem
        simpa [find?, hk] using ih hrest hin

/-- Where keys are distinct, the order of entries does not matter. -/
theorem find?_perm {entries entries' : List (κ × α)} (hperm : entries.Perm entries')
    (hnodup : (entries.map Prod.fst).Nodup) (key : κ) :
    find? key entries = find? key entries' := by
  have hnodup' : (entries'.map Prod.fst).Nodup := (hperm.map Prod.fst).nodup_iff.mp hnodup
  apply Option.ext
  intro value
  rw [find?_eq_some_iff hnodup, find?_eq_some_iff hnodup', hperm.mem_iff]

/-- Keys and values are mapped; no other key may be taken for the one that is looked up. -/
theorem find?_map {μ β : Type} [DecidableEq μ] (f : κ → μ) (g : α → β) {key : κ}
    {entries : List (κ × α)} (hinj : ∀ e ∈ entries, f e.1 = f key → e.1 = key) :
    find? (f key) (entries.map fun e => (f e.1, g e.2)) = (find? key entries).map g := by
  induction entries with
  | nil => rfl
  | cons e rest ih =>
    have hrest := ih fun d hd => hinj d (List.mem_cons_of_mem e hd)
    have hiff : f e.1 = f key ↔ e.1 = key := ⟨hinj e List.mem_cons_self, congrArg f⟩
    by_cases h : e.1 = key <;> simp [find?, hiff, h, hrest]

private theorem find?_foldl_insert (key : κ) (entries acc : List (κ × α)) :
    find? key (entries.foldl (fun acc (k, v) => insert k v acc) acc) =
      (find? key entries.reverse).or (find? key acc) := by
  induction entries generalizing acc with
  | nil => rfl
  | cons e rest ih =>
    obtain ⟨k, v⟩ := e
    rw [List.foldl_cons, ih, find?_insert, List.reverse_cons, find?_append, Option.or_assoc]
    by_cases h : k = key <;> simp [find?, h]

/-- Of the values that were given for a key, the last one is found. -/
theorem find?_ofList (key : κ) (entries : List (κ × α)) :
    find? key (ofList entries) = find? key entries.reverse := by
  rw [ofList, find?_foldl_insert]
  simp [find?]

theorem mem_of_mem_insert {key : κ} {value : α} {entries : List (κ × α)} {e : κ × α}
    (h : e ∈ insert key value entries) : e = (key, value) ∨ e ∈ entries := by
  induction entries with
  | nil => exact .inl (List.mem_singleton.mp h)
  | cons d rest ih =>
    obtain ⟨k, v⟩ := d
    by_cases hk : k = key
    · subst hk
      rw [insert, if_pos rfl] at h
      rcases List.mem_cons.mp h with hfirst | hrest
      · exact .inl hfirst
      · exact .inr (List.mem_cons_of_mem _ hrest)
    · rw [insert, if_neg hk] at h
      rcases List.mem_cons.mp h with hfirst | hrest
      · exact .inr (hfirst ▸ List.mem_cons_self)
      · exact (ih hrest).imp_right (List.mem_cons_of_mem _)

/-- A new key comes last, and one that is there keeps its place. -/
theorem keys_insert (key : κ) (value : α) (entries : List (κ × α)) :
    (insert key value entries).map Prod.fst =
      if key ∈ entries.map Prod.fst then entries.map Prod.fst
      else entries.map Prod.fst ++ [key] := by
  induction entries with
  | nil => rfl
  | cons e rest ih =>
    obtain ⟨k, v⟩ := e
    by_cases hk : k = key
    · subst hk
      simp [insert]
    · have hne : key ≠ k := fun h => hk h.symm
      rw [insert, if_neg hk, List.map_cons, List.map_cons, ih]
      by_cases h : key ∈ rest.map Prod.fst <;> simp [h, hne]

theorem nodup_insert {entries : List (κ × α)} (hnodup : (entries.map Prod.fst).Nodup) (key : κ)
    (value : α) : ((insert key value entries).map Prod.fst).Nodup := by
  rw [keys_insert]
  split
  · exact hnodup
  · rename_i hfresh
    rw [← List.concat_eq_append]
    exact List.Nodup.concat hfresh hnodup

theorem insert_of_notMem {key : κ} {entries : List (κ × α)} (h : key ∉ entries.map Prod.fst)
    (value : α) : insert key value entries = entries ++ [(key, value)] := by
  induction entries with
  | nil => rfl
  | cons e rest ih =>
    obtain ⟨k, v⟩ := e
    rw [List.map_cons, List.mem_cons, not_or] at h
    rw [insert, if_neg (Ne.symm h.1), ih h.2, List.cons_append]

private theorem nodup_foldl_insert (entries : List (κ × α)) {acc : List (κ × α)}
    (hacc : (acc.map Prod.fst).Nodup) :
    ((entries.foldl (fun acc (k, v) => insert k v acc) acc).map Prod.fst).Nodup := by
  induction entries generalizing acc with
  | nil => exact hacc
  | cons e rest ih => exact ih (nodup_insert hacc e.1 e.2)

theorem nodup_ofList (entries : List (κ × α)) : ((ofList entries).map Prod.fst).Nodup :=
  nodup_foldl_insert entries List.nodup_nil

private theorem mem_of_mem_foldl_insert {entries acc : List (κ × α)} {e : κ × α}
    (h : e ∈ entries.foldl (fun acc (k, v) => insert k v acc) acc) : e ∈ entries ∨ e ∈ acc := by
  induction entries generalizing acc with
  | nil => exact .inr h
  | cons d rest ih =>
    rcases ih h with hrest | hinsert
    · exact .inl (List.mem_cons_of_mem d hrest)
    · rcases mem_of_mem_insert hinsert with hfirst | hacc
      · exact .inl (hfirst ▸ List.mem_cons_self)
      · exact .inr hacc

theorem mem_of_mem_ofList {entries : List (κ × α)} {e : κ × α} (h : e ∈ ofList entries) :
    e ∈ entries :=
  (mem_of_mem_foldl_insert h).resolve_right List.not_mem_nil

private theorem foldl_insert_of_nodup {entries acc : List (κ × α)}
    (h : ((acc ++ entries).map Prod.fst).Nodup) :
    entries.foldl (fun acc (k, v) => insert k v acc) acc = acc ++ entries := by
  induction entries generalizing acc with
  | nil => rw [List.foldl_nil, List.append_nil]
  | cons e rest ih =>
    obtain ⟨k, v⟩ := e
    have hfresh : k ∉ acc.map Prod.fst := by
      rw [List.map_append] at h
      intro hk
      exact (List.nodup_append.mp h).2.2 k hk k List.mem_cons_self rfl
    have hmore : ((acc ++ [(k, v)] ++ rest).map Prod.fst).Nodup := by rwa [List.append_assoc]
    calc
      rest.foldl (fun acc (k, v) => insert k v acc) (insert k v acc)
        = rest.foldl (fun acc (k, v) => insert k v acc) (acc ++ [(k, v)]) := by
          rw [insert_of_notMem hfresh]
      _ = acc ++ [(k, v)] ++ rest := ih hmore
      _ = acc ++ (k, v) :: rest := List.append_assoc acc [(k, v)] rest

/-- Keys stand in the order in which they were given first. -/
theorem keys_ofList (entries : List (κ × α)) :
    (ofList entries).map Prod.fst = (entries.map Prod.fst).eraseDups := by
  induction entries using List.reverseRecOn with
  | nil => rfl
  | append_singleton front e ih =>
    obtain ⟨k, v⟩ := e
    have hlast : ofList (front ++ [(k, v)]) = insert k v (ofList front) := List.foldl_concat ..
    have hmem : k ∈ (ofList front).map Prod.fst ↔ k ∈ front.map Prod.fst := by
      rw [ih, List.mem_eraseDups]
    rw [hlast, keys_insert, List.map_append, List.map_singleton, List.eraseDups_append, ← ih]
    by_cases h : k ∈ front.map Prod.fst
    · have hold : [k].removeAll (front.map Prod.fst) = [] := by simp [List.removeAll, h]
      rw [if_pos (hmem.mpr h), hold, List.eraseDups_nil, List.append_nil]
    · have hnew : [k].removeAll (front.map Prod.fst) = [k] := by simp [List.removeAll, h]
      rw [if_neg (mt hmem.mp h), hnew]
      rfl

/-- Entries with distinct keys stay as they are. -/
theorem ofList_of_nodup {entries : List (κ × α)} (hnodup : (entries.map Prod.fst).Nodup) :
    ofList entries = entries :=
  foldl_insert_of_nodup hnodup

end ObjectPath.Entries
