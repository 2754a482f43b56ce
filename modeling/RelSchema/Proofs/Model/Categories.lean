import Mathlib.Data.List.FinRange
import RelSchema.Model
import RelSchema.Proofs.Distinct

namespace RelSchema

/-- The items of a list are divided among groups: each group has the items of its places in their
order, and each place belongs to exactly one group. -/
structure Divides {α : Type} (items : List α) (groups : List (List α))
    (places : List (List (Fin items.length))) : Prop where
  groups_eq : groups = places.map (·.map items.get)
  ordered : ∀ group ∈ places, group.Pairwise (· < ·)
  once : ∀ i, places.countP (i ∈ ·) = 1

theorem count_flatten_of_nodup {α : Type} [DecidableEq α] {lists : List (List α)}
    (h : ∀ l ∈ lists, l.Nodup) (x : α) : lists.flatten.count x = lists.countP (x ∈ ·) := by
  induction lists with
  | nil => rfl
  | cons l lists ih =>
    obtain ⟨hl, hlists⟩ := List.forall_mem_cons.1 h
    rw [List.flatten_cons, List.count_append, ih hlists, hl.count, List.countP_cons, Nat.add_comm]
    simp only [decide_eq_true_eq]

theorem Divides.perm {α : Type} {items : List α} {groups : List (List α)}
    {places : List (List (Fin items.length))} (h : Divides items groups places) :
    groups.flatten.Perm items := by
  have hplaces : places.flatten.Perm (List.finRange items.length) := by
    apply List.perm_iff_count.2
    intro i
    have hnodup : ∀ group ∈ places, group.Nodup := fun group hgroup =>
      (h.ordered group hgroup).imp fun hlt => Fin.ne_of_lt hlt
    rw [count_flatten_of_nodup hnodup, h.once, List.count_finRange]
  have hitems := hplaces.map items.get
  rw [List.map_flatten, ← h.groups_eq, List.map_get_finRange] at hitems
  exact hitems

namespace Model

variable (m : Model)

/-- The positions of the fields of a category. -/
def positions (category : String) : List (Fin m.fields.length) :=
  (List.finRange m.fields.length).filter fun i => (m.fields.get i).spec.category == category

/-- The position of the first field of a category. -/
def firstPosition (category : String) : Nat :=
  m.fields.findIdx (·.spec.category == category)

theorem fieldsForCategory_eq_map (category : String) :
    m.fieldsForCategory category = (m.positions category).map m.fields.get := by
  have hfields : ((List.finRange m.fields.length).map m.fields.get).filter
      (·.spec.category == category) = m.fieldsForCategory category := by
    rw [List.map_get_finRange, fieldsForCategory]
  rw [← hfields, List.filter_map]
  rfl

theorem noncategoryFields_eq : m.noncategoryFields = m.fieldsForCategory "" := by
  apply List.filter_congr
  intro f _
  rw [Bool.eq_iff_iff, String.isEmpty_iff, beq_iff_eq]

theorem categories_eq_filter :
    m.categories = (distinct (m.fields.map (·.spec.category))).filter (!·.isEmpty) := by
  rw [← distinct_filter, List.filter_map]
  rfl

theorem mem_categories {category : String} :
    category ∈ m.categories ↔ category ≠ "" ∧ ∃ f ∈ m.fields, f.spec.category = category := by
  rw [categories_eq_filter, List.mem_filter, mem_distinct, List.mem_map, Bool.not_eq_true',
    ← Bool.not_eq_true, String.isEmpty_iff, and_comm]

/-- The labels of a model's categories, each once, in the order in which they are first met. -/
structure ListsCategories (labels : List String) : Prop where
  mem_iff : ∀ label, label ∈ labels ↔ label ≠ "" ∧ ∃ f ∈ m.fields, f.spec.category = label
  nodup : labels.Nodup
  ordered : labels.Pairwise fun label next => m.firstPosition label < m.firstPosition next

theorem listsCategories : m.ListsCategories m.categories := by
  constructor
  case mem_iff => exact fun _ => m.mem_categories
  case nodup => exact nodup_distinct _
  case ordered =>
    rw [categories_eq_filter]
    apply List.Pairwise.filter
    apply (pairwise_idxOf_distinct _).imp
    intro label next hlt
    rw [List.idxOf, List.idxOf, List.findIdx_map, List.findIdx_map] at hlt
    exact hlt

theorem mem_positions {category : String} {i : Fin m.fields.length} :
    i ∈ m.positions category ↔ (m.fields.get i).spec.category = category := by
  rw [positions, List.mem_filter, beq_iff_eq, and_iff_right (List.mem_finRange i)]

theorem countP_positions (i : Fin m.fields.length) :
    ((m.categories ++ [""]).map m.positions).countP (i ∈ ·) = 1 := by
  have hnodup : (m.categories ++ [""]).Nodup := by
    apply List.nodup_append_comm.1
    apply List.nodup_cons.2
    refine ⟨?_, nodup_distinct _⟩
    intro hmem
    exact (m.mem_categories.1 hmem).1 rfl
  have hmem : (m.fields.get i).spec.category ∈ m.categories ++ [""] := by
    by_cases hempty : (m.fields.get i).spec.category = ""
    · rw [hempty]
      exact List.mem_append_right _ List.mem_cons_self
    · apply List.mem_append_left
      exact m.mem_categories.2 ⟨hempty, _, List.get_mem _ i, rfl⟩
  -- The lists that have the position are as many as the labels that its field has.
  rw [List.countP_map, ← List.count_eq_one_of_mem hnodup hmem, List.count]
  apply List.countP_congr
  intro category _
  simp only [Function.comp_apply, decide_eq_true_eq, mem_positions, beq_iff_eq]
  exact eq_comm

theorem divides_positions :
    Divides m.fields (m.categories.map m.fieldsForCategory ++ [m.noncategoryFields])
      ((m.categories ++ [""]).map m.positions) := by
  constructor
  case groups_eq =>
    have hgroup : m.fieldsForCategory = (·.map m.fields.get) ∘ m.positions :=
      funext m.fieldsForCategory_eq_map
    rw [noncategoryFields_eq, List.map_map, List.map_append, hgroup]
    rfl
  case ordered =>
    intro group hgroup
    obtain ⟨category, -, rfl⟩ := List.mem_map.1 hgroup
    exact (List.pairwise_lt_finRange _).filter _
  case once => exact m.countP_positions

/-- Each category is listed once, where it is first met, and with those of no category the fields of
the categories are all fields, each once. -/
theorem categories_partition :
    m.ListsCategories m.categories ∧
      (∀ category ∈ m.categories, m.fieldsForCategory category ≠ []) ∧
      Divides m.fields (m.categories.map m.fieldsForCategory ++ [m.noncategoryFields])
        ((m.categories ++ [""]).map m.positions) ∧
      ((m.categories.map m.fieldsForCategory).flatten ++ m.noncategoryFields).Perm m.fields := by
  refine ⟨m.listsCategories, ?_, m.divides_positions, ?_⟩
  · intro category hcategory
    obtain ⟨-, f, hf, hlabel⟩ := m.mem_categories.1 hcategory
    apply List.ne_nil_of_mem
    exact List.mem_filter.2 ⟨hf, beq_iff_eq.2 hlabel⟩
  · have hperm := m.divides_positions.perm
    rw [List.flatten_append, List.flatten_singleton] at hperm
    exact hperm

end Model

end RelSchema
