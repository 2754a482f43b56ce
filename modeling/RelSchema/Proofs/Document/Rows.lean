import RelSchema.Proofs.Document.Acceptance

namespace RelSchema.DocumentRow

variable {name : String} {names : List String} {cells cells' : Keyed Value} {row : Row}

/-- An outcome of taking the values out of a map under the names, one after the other, if what is
left may be rearranged each time. -/
inductive Takes : Keyed Value → List String → Except RowFault Row → Prop
  | done (cells : Keyed Value) : Takes cells [] (.ok [])
  | missing {cells : Keyed Value} {name : String} (names : List String)
      (hnone : cells.get? name = none) : Takes cells (name :: names) (.error (.missingValue name))
  | take {cells rest : Keyed Value} {name : String} {names : List String} {value : Value}
      {outcome : Except RowFault Row} (hvalue : cells.get? name = some value)
      (hrest : rest.Perm (cells.erase name)) (htakes : Takes rest names outcome) :
      Takes cells (name :: names) (outcome.map (value :: ·))

/-- Every name finds a value of its own in the map. -/
def Fills (cells : Keyed Value) (names : List String) : Prop :=
  names.Nodup ∧ ∀ name ∈ names, name ∈ cells.keys

theorem missing_eq_nil_iff_fills : missing cells [] names = [] ↔ Fills cells names := by
  rw [missing_eq_nil_iff, Fills]
  simp only [List.not_mem_nil, not_false_eq_true, implies_true, true_and, Keyed.has_iff_mem_keys]

theorem exists_order_iff : (∃ row, (map cells).order names = .ok row) ↔ Fills cells names := by
  rw [← fault?_eq_none_iff, fault?_order, List.head?_eq_none_iff, faults, List.map_eq_nil_iff,
    missing_eq_nil_iff_fills]

theorem map_get?_erase (h : name ∉ names) :
    names.map ((cells.erase name).get? ·) = names.map (cells.get? ·) := by
  apply List.map_congr_left
  intro other hother
  have hne : other ≠ name := by
    rintro rfl
    exact h hother
  rw [Keyed.get?_erase, if_neg hne]

theorem map_some_of_pick (h : pick names cells = .ok row) :
    row.map some = names.map (cells.get? ·) := by
  induction names generalizing cells row with
  | nil =>
    cases h
    rfl
  | cons name names ih =>
    obtain ⟨value, rest, hvalue, hrest, rfl⟩ := pick_cons_eq_ok_iff.1 h
    have hcells := ih hrest
    have hfresh : name ∉ names := by
      intro hmem
      have hnone := List.mem_map_of_mem (f := ((cells.erase name).get? ·)) hmem
      rw [← hcells, Keyed.get?_erase, if_pos rfl] at hnone
      obtain ⟨_, _, hnone⟩ := List.mem_map.1 hnone
      cases hnone
    rw [List.map_cons, List.map_cons, hvalue, hcells, map_get?_erase hfresh]

theorem pick_congr (h : ∀ name ∈ names, cells.get? name = cells'.get? name) :
    pick names cells = pick names cells' := by
  induction names generalizing cells cells' with
  | nil => rfl
  | cons name names ih =>
    obtain ⟨hname, hnames⟩ := List.forall_mem_cons.1 h
    have hrest : pick names (cells.erase name) = pick names (cells'.erase name) := by
      apply ih
      intro other hother
      rw [Keyed.get?_erase, Keyed.get?_erase, hnames other hother]
    rw [pick, pick, hname, hrest]

theorem missing_cons (earlier : List String) :
    missing cells earlier (name :: names) =
      if name ∈ earlier ∨ name ∉ cells.keys then name :: missing cells (name :: earlier) names
      else missing cells (name :: earlier) names := by
  have hhas : (!cells.has name) = true ↔ name ∉ cells.keys := by
    rw [Bool.not_eq_true', ← Bool.not_eq_true, Keyed.has_iff_mem_keys]
  rw [missing]
  simp only [Bool.or_eq_true, decide_eq_true_eq, hhas]
  split <;> rfl

theorem head?_missing_eq_some_iff {earlier : List String} :
    (missing cells earlier names).head? = some name ↔
      ∃ before after, names = before ++ name :: after ∧ missing cells earlier before = [] ∧
        (name ∈ before ∨ name ∈ earlier ∨ name ∉ cells.keys) := by
  induction names generalizing earlier with
  | nil => simp [missing]
  | cons first names ih =>
    by_cases hfirst : first ∈ earlier ∨ first ∉ cells.keys
    · rw [missing_cons, if_pos hfirst, List.head?_cons, Option.some_inj]
      constructor
      · rintro rfl
        exact ⟨[], names, rfl, rfl, .inr hfirst⟩
      · rintro ⟨before, after, hnames, hnone, _⟩
        cases before with
        | nil => exact (List.cons.inj hnames).1
        | cons other before =>
          obtain ⟨rfl, _⟩ := List.cons.inj hnames
          rw [missing_cons, if_pos hfirst] at hnone
          cases hnone
    · rw [missing_cons, if_neg hfirst, ih]
      constructor
      · rintro ⟨before, after, rfl, hnone, hname⟩
        refine ⟨first :: before, after, rfl, ?_, ?_⟩
        · rw [missing_cons, if_neg hfirst, hnone]
        · simpa [or_assoc, or_left_comm] using hname
      · rintro ⟨before, after, hnames, hnone, hname⟩
        cases before with
        | nil =>
          obtain ⟨rfl, _⟩ := List.cons.inj hnames
          exact absurd (hname.resolve_left List.not_mem_nil) hfirst
        | cons other before =>
          obtain ⟨rfl, rfl⟩ := List.cons.inj hnames
          rw [missing_cons, if_neg hfirst] at hnone
          exact ⟨before, after, rfl, hnone, by simpa [or_assoc, or_left_comm] using hname⟩

theorem order_map_eq_error_iff {e : RowFault} :
    (map cells).order names = .error e ↔ ∃ before name after, names = before ++ name :: after ∧
      Fills cells before ∧ (name ∈ before ∨ name ∉ cells.keys) ∧ e = .missingValue name := by
  rw [← fault?_eq_some_iff, fault?_order, faults, List.head?_map, Option.map_eq_some_iff]
  constructor
  · rintro ⟨name, hname, rfl⟩
    obtain ⟨before, after, hnames, hnone, hname⟩ := head?_missing_eq_some_iff.1 hname
    rw [missing_eq_nil_iff_fills] at hnone
    exact ⟨before, name, after, hnames, hnone, by simpa using hname, rfl⟩
  · rintro ⟨before, name, after, hnames, hfills, hname, rfl⟩
    refine ⟨name, head?_missing_eq_some_iff.2 ⟨before, after, hnames, ?_, ?_⟩, rfl⟩
    · exact missing_eq_nil_iff_fills.2 hfills
    · exact hname.imp_right .inr

theorem order_map_of_perm {table extra : Keyed Value} (htable : table.keys.Nodup)
    (hperm : table.Perm (cells ++ extra)) (hextra : ∀ name ∈ names, name ∉ extra.keys) :
    (map table).order names = (map cells).order names := by
  apply pick_congr
  intro name hname
  rw [Keyed.get?_eq_of_perm htable hperm, Keyed.get?_append_of_notMem (hextra name hname)]

theorem order_map_eq_order_list (hnames : names.Nodup)
    (hrow : row.map some = names.map (cells.get? ·)) :
    (map cells).order names = (list row).order names := by
  have hlength : row.length = names.length := by
    have hlengths := congrArg List.length hrow
    rwa [List.length_map, List.length_map] at hlengths
  have hfills : Fills cells names := by
    refine ⟨hnames, fun name hname => ?_⟩
    have hget := List.mem_map_of_mem (f := (cells.get? ·)) hname
    rw [← hrow] at hget
    obtain ⟨value, _, hvalue⟩ := List.mem_map.1 hget
    exact List.mem_map_of_mem (f := (·.1)) (Keyed.mem_of_get? hvalue.symm)
  obtain ⟨row', hrow'⟩ := exists_order_iff.2 hfills
  have heq : row' = row :=
    (List.map_inj_right fun _ _ => Option.some.inj).1 ((map_some_of_pick hrow').trans hrow.symm)
  rw [hrow', heq, order, if_pos hlength]

theorem takes_pick (names : List String) (cells : Keyed Value) :
    Takes cells names (pick names cells) := by
  induction names generalizing cells with
  | nil => exact .done cells
  | cons name names ih =>
    rw [pick]
    split
    · rename_i hnone
      exact .missing names hnone
    · rename_i value hvalue
      exact .take hvalue (List.Perm.refl _) (ih _)

/-- However the map is rearranged on the way, the outcome is the same. -/
theorem Takes.eq_pick {outcome : Except RowFault Row} (h : Takes cells names outcome)
    (hcells : cells.keys.Nodup) : outcome = pick names cells := by
  induction h with
  | done cells => rfl
  | missing names hnone => rw [pick, hnone]
  | @take cells rest name names value outcome hvalue hrest _ ih =>
    have hkeys : rest.keys.Nodup := by
      apply (hrest.map Prod.fst).symm.nodup
      exact hcells.sublist (List.filter_sublist.map Prod.fst)
    have hsame : pick names rest = pick names (cells.erase name) :=
      pick_congr fun other _ => Keyed.get?_eq_of_perm hkeys hrest other
    rw [pick, hvalue, ih hkeys, hsame]

theorem takes_iff {outcome : Except RowFault Row} (hcells : cells.keys.Nodup) :
    Takes cells names outcome ↔ outcome = (map cells).order names := by
  constructor
  · intro h
    exact h.eq_pick hcells
  · rintro rfl
    exact takes_pick names cells

/-- A map gives a row exactly if the names differ and are its keys. Otherwise the first name that is
no key, or repeats one before it, is at fault. Other keys and the order of the entries do not
matter. -/
theorem order_map_outcome (names : List String) (cells : Keyed Value) :
    ((∃ row, (map cells).order names = .ok row) ↔ Fills cells names) ∧
    (∀ row, (map cells).order names = .ok row → row.map some = names.map (cells.get? ·)) ∧
    (∀ e, (map cells).order names = .error e ↔
      ∃ before name after, names = before ++ name :: after ∧ Fills cells before ∧
        (name ∈ before ∨ name ∉ cells.keys) ∧ e = .missingValue name) ∧
    (∀ row, names.Nodup → row.map some = names.map (cells.get? ·) →
      (map cells).order names = (list row).order names) ∧
    (∀ table extra : Keyed Value, table.keys.Nodup → table.Perm (cells ++ extra) →
      (∀ name ∈ names, name ∉ extra.keys) →
      (map table).order names = (map cells).order names) ∧
    ∀ outcome, cells.keys.Nodup →
      (Takes cells names outcome ↔ outcome = (map cells).order names) :=
  ⟨exists_order_iff, fun _ => map_some_of_pick, fun _ => order_map_eq_error_iff,
    fun _ => order_map_eq_order_list, fun _ _ => order_map_of_perm, fun _ => takes_iff⟩

/-- The cells of a vehicle in no particular order, among them one that is asked for by no field. -/
def vehicleCells : Keyed Value :=
  [("load", .int 7), ("note", .text "new"), ("id", .int 1)]

theorem order_map_outcome_vehicle :
    (∀ outcome, Takes vehicleCells ["id", "load"] outcome → outcome = .ok [.int 1, .int 7]) ∧
      (map vehicleCells).order ["id", "load", "id"] = .error (.missingValue "id") := by
  constructor
  · intro outcome htakes
    obtain ⟨_, _, _, _, _, htaken⟩ := order_map_outcome ["id", "load"] vehicleCells
    obtain ⟨_, _, _, hlist, horder, _⟩ :=
      order_map_outcome ["id", "load"] [("id", .int 1), ("load", .int 7)]
    rw [(htaken outcome (by decide)).1 htakes,
      horder vehicleCells [("note", .text "new")] (by decide) (by decide) (by decide)]
    exact hlist [.int 1, .int 7] (by decide) rfl
  · obtain ⟨_, _, hfault, _⟩ := order_map_outcome ["id", "load", "id"] vehicleCells
    exact (hfault _).2 ⟨["id", "load"], "id", [], rfl, ⟨by decide, by decide⟩, .inl (by decide),
      rfl⟩

end RelSchema.DocumentRow
