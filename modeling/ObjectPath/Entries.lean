/-! Lists of keyed entries: each key has one value, and a new value keeps the place of its key. -/
namespace ObjectPath.Entries

variable {κ α : Type} [DecidableEq κ]

def find? (key : κ) : List (κ × α) → Option α
  | [] => none
  | (k, v) :: rest => if k = key then some v else find? key rest

/-- Replaces the value of a key where it stands, or adds an entry at the end. -/
def insert (key : κ) (value : α) : List (κ × α) → List (κ × α)
  | [] => [(key, value)]
  | (k, v) :: rest => if k = key then (k, value) :: rest else (k, v) :: insert key value rest

/-- Inserts entries one after the other, so that the last value of a key counts. -/
def ofList (entries : List (κ × α)) : List (κ × α) :=
  entries.foldl (fun acc (k, v) => insert k v acc) []

/-- An insertion changes what is found under its key, and nothing else. -/
theorem find?_insert (key other : κ) (value : α) (entries : List (κ × α)) :
    find? other (insert key value entries) =
      if key = other then some value else find? other entries := by
  induction entries with
  | nil => simp [insert, find?]
  | cons e rest ih =>
    obtain ⟨k, v⟩ := e
    by_cases hk : k = key
    · subst hk
      by_cases h : k = other <;> simp [insert, find?, h]
    · by_cases h : key = other
      · subst h
        simp [insert, find?, hk, ih]
      · simp [insert, find?, hk, ih, h]

end ObjectPath.Entries
