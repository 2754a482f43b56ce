namespace RelSchema

/-- Tables from names to values that keep the order in which their names first came. -/
abbrev Keyed (α : Type) := List (String × α)

namespace Keyed

variable {α : Type}

/-- A name that is there keeps its place and gets the new value; another one comes last. -/
def insert (key : String) (value : α) : Keyed α → Keyed α
  | [] => [(key, value)]
  | (k, v) :: rest => if k = key then (key, value) :: rest else (k, v) :: insert key value rest

def get? (key : String) : Keyed α → Option α
  | [] => none
  | (k, v) :: rest => if k = key then some v else get? key rest

def erase (key : String) (table : Keyed α) : Keyed α :=
  table.filter (·.1 ≠ key)

def keys (table : Keyed α) : List String :=
  table.map (·.1)

def has (table : Keyed α) (key : String) : Bool :=
  (table.get? key).isSome

/-- The table of a list of entries, in which the last value of a name counts. -/
def ofEntries (entries : List (String × α)) : Keyed α :=
  entries.foldl (fun table entry => table.insert entry.1 entry.2) []

@[simp]
theorem get?_insert (key other : String) (value : α) (table : Keyed α) :
    (table.insert key value).get? other = if other = key then some value else table.get? other := by
  induction table with
  | nil => simp [insert, get?, eq_comm]
  | cons entry rest ih =>
    obtain ⟨k, v⟩ := entry
    by_cases h : k = key
    · subst h
      by_cases ho : other = k <;> simp [insert, get?, ho, eq_comm]
    · by_cases ho : other = key
      · subst ho
        simp_all [insert, get?]
      · simp [insert, get?, h, ih, ho]

@[simp]
theorem get?_erase (key other : String) (table : Keyed α) :
    (table.erase key).get? other = if other = key then none else table.get? other := by
  induction table with
  | nil => simp [erase, get?]
  | cons entry rest ih =>
    obtain ⟨k, v⟩ := entry
    by_cases hk : k = key
    · subst hk
      by_cases ho : other = k
      · simp_all [erase]
      · simp_all [erase, get?, Ne.symm ho]
    · by_cases ho : k = other
      · subst ho
        simp [erase, get?, hk]
      · simp_all [erase, get?]

theorem keys_insert (key : String) (value : α) (table : Keyed α) :
    (table.insert key value).keys =
      if key ∈ table.keys then table.keys else table.keys ++ [key] := by
  induction table with
  | nil => simp [insert, keys]
  | cons entry rest ih =>
    obtain ⟨k, v⟩ := entry
    by_cases h : k = key
    · simp [insert, keys, h]
    · have hk : ¬ key = k := fun e => h e.symm
      simp only [keys, insert, h, ↓reduceIte, List.map_cons, List.mem_cons, hk, false_or] at ih ⊢
      rw [ih]
      split <;> simp_all

theorem nodup_keys_insert {key : String} {value : α} {table : Keyed α} (h : table.keys.Nodup) :
    (table.insert key value).keys.Nodup := by
  rw [keys_insert]
  split
  · exact h
  · rename_i hk
    exact List.nodup_append.2 ⟨h, by simp, fun a ha b hb => by
      rw [List.mem_singleton] at hb
      subst hb
      exact fun e => hk (e ▸ ha)⟩

/-- No name occurs twice in a table made of entries. -/
theorem nodup_keys_ofEntries (entries : List (String × α)) : (ofEntries entries).keys.Nodup := by
  suffices ∀ (es : List (String × α)) (t : Keyed α), t.keys.Nodup →
      (es.foldl (fun table entry => table.insert entry.1 entry.2) t).keys.Nodup from
    this entries [] (by simp [keys])
  intro es
  induction es with
  | nil => exact fun _ h => h
  | cons e es ih => exact fun t h => ih _ (nodup_keys_insert h)

end Keyed

end RelSchema
