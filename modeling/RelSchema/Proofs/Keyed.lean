import RelSchema.Keyed

namespace RelSchema.Keyed

variable {α : Type}

theorem mem_keys_insert {key other : String} {value : α} {table : Keyed α} :
    other ∈ (table.insert key value).keys ↔ other = key ∨ other ∈ table.keys := by
  rw [keys_insert]
  split
  · constructor
    · exact .inr
    · rintro (rfl | h) <;> assumption
  · rw [List.mem_append, List.mem_singleton, or_comm]

theorem mem_of_mem_insert {key : String} {value : α} {table : Keyed α} {entry : String × α}
    (h : entry ∈ table.insert key value) : entry = (key, value) ∨ entry ∈ table := by
  induction table with
  | nil => exact .inl (List.mem_singleton.1 h)
  | cons first rest ih =>
    rw [insert] at h
    split at h
    · rcases List.mem_cons.1 h with h | h
      · exact .inl h
      · exact .inr (List.mem_cons_of_mem first h)
    · rcases List.mem_cons.1 h with rfl | h
      · exact .inr List.mem_cons_self
      · exact (ih h).imp_right (List.mem_cons_of_mem first)

theorem insert_of_not_mem {key : String} {value : α} {table : Keyed α} (h : key ∉ table.keys) :
    table.insert key value = table ++ [(key, value)] := by
  induction table with
  | nil => rfl
  | cons entry rest ih =>
    rw [keys, List.map_cons, List.mem_cons, not_or] at h
    rw [insert, if_neg fun he => h.1 he.symm, ih h.2]
    rfl

theorem mem_of_get? {key : String} {value : α} {table : Keyed α}
    (h : table.get? key = some value) : (key, value) ∈ table := by
  induction table with
  | nil => cases h
  | cons entry rest ih =>
    obtain ⟨k, v⟩ := entry
    rw [get?] at h
    split at h
    · rename_i hk
      cases h
      rw [hk]
      exact List.mem_cons_self
    · exact List.mem_cons_of_mem _ (ih h)

theorem has_iff_mem_keys {key : String} {table : Keyed α} :
    table.has key = true ↔ key ∈ table.keys := by
  induction table with
  | nil => simp [has, get?, keys]
  | cons entry rest ih =>
    by_cases h : entry.1 = key
    · simp [has, get?, keys, h]
    · simpa [has, get?, keys, h, Ne.symm h] using ih

theorem get?_eq_some_iff_mem {key : String} {value : α} {table : Keyed α}
    (h : table.keys.Nodup) : table.get? key = some value ↔ (key, value) ∈ table := by
  constructor
  · exact mem_of_get?
  · intro hmem
    induction table with
    | nil => cases hmem
    | cons entry rest ih =>
      obtain ⟨hfresh, hrest⟩ := List.nodup_cons.1 h
      rcases List.mem_cons.1 hmem with rfl | hmem
      · exact if_pos rfl
      · have hne : entry.1 ≠ key := by
          rintro rfl
          exact hfresh (List.mem_map_of_mem (f := (·.1)) hmem)
        rw [get?, if_neg hne, ih hrest hmem]

theorem get?_eq_of_perm {table other : Keyed α} (h : table.keys.Nodup) (hperm : table.Perm other)
    (key : String) : table.get? key = other.get? key := by
  have hother : other.keys.Nodup := (hperm.map Prod.fst).nodup h
  apply Option.ext
  intro value
  rw [get?_eq_some_iff_mem h, get?_eq_some_iff_mem hother, hperm.mem_iff]

theorem get?_append_of_notMem {key : String} {extra : Keyed α} (h : key ∉ extra.keys)
    (table : Keyed α) : Keyed.get? key (table ++ extra) = table.get? key := by
  induction table with
  | nil =>
    cases hget : extra.get? key with
    | none => exact hget
    | some value => exact absurd (List.mem_map_of_mem (f := (·.1)) (mem_of_get? hget)) h
  | cons entry rest ih => rw [List.cons_append, get?, get?, ih]

theorem mem_keys_foldl_insert {key : String} (entries : List (String × α)) (table : Keyed α) :
    key ∈ (entries.foldl (fun table entry => table.insert entry.1 entry.2) table).keys ↔
      key ∈ table.keys ∨ key ∈ entries.map (·.1) := by
  induction entries generalizing table with
  | nil => simp
  | cons entry entries ih =>
    rw [List.foldl_cons, ih, mem_keys_insert, List.map_cons, List.mem_cons, or_comm (a := key = _),
      or_assoc]

theorem has_ofEntries (entries : List (String × α)) (key : String) :
    (ofEntries entries).has key = (entries.map (·.1)).contains key := by
  rw [Bool.eq_iff_iff, has_iff_mem_keys, ofEntries, mem_keys_foldl_insert, List.contains_iff_mem]
  simp [keys]

theorem mem_of_mem_ofEntries {entries : List (String × α)} {entry : String × α}
    (h : entry ∈ ofEntries entries) : entry ∈ entries := by
  suffices hfold : ∀ (es : List (String × α)) (table : Keyed α),
      entry ∈ es.foldl (fun table entry => table.insert entry.1 entry.2) table →
        entry ∈ table ∨ entry ∈ es by
    simpa using hfold entries [] h
  intro es
  induction es with
  | nil => exact fun _ => .inl
  | cons first es ih =>
    intro table hentry
    rcases ih _ hentry with hinsert | hes
    · rcases mem_of_mem_insert hinsert with rfl | htable
      · exact .inr List.mem_cons_self
      · exact .inl htable
    · exact .inr (List.mem_cons_of_mem first hes)

theorem ofEntries_eq_self {table : Keyed α} (h : table.keys.Nodup) : ofEntries table = table := by
  suffices hfold : ∀ es table : Keyed α, (table ++ es).keys.Nodup →
      es.foldl (fun table entry => table.insert entry.1 entry.2) table = table ++ es from
    hfold table [] h
  intro es
  induction es with
  | nil => simp
  | cons entry es ih =>
    intro table hnodup
    have hfresh : entry.1 ∉ table.keys := by
      rw [keys, List.map_append, List.nodup_append] at hnodup
      exact fun hmem => hnodup.2.2 _ hmem _ List.mem_cons_self rfl
    rw [List.foldl_cons, insert_of_not_mem hfresh]
    have hassoc : (table ++ [entry]) ++ es = table ++ entry :: es := by simp
    exact (ih _ (hassoc ▸ hnodup)).trans hassoc

end RelSchema.Keyed
