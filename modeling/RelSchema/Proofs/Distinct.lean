import Mathlib.Data.List.Basic
import Mathlib.Data.List.Induction
import RelSchema.Distinct
import RelSchema.Proofs.Value.Equality

namespace RelSchema

variable {α : Type} [BEq α]

theorem distinctAfter_append (kept items more : List α) :
    distinctAfter kept (items ++ more) =
      distinctAfter kept items ++ distinctAfter (kept ++ distinctAfter kept items) more := by
  induction items generalizing kept with
  | nil => rw [List.nil_append, distinctAfter, List.nil_append, List.append_nil]
  | cons x items ih =>
    rw [List.cons_append, distinctAfter, distinctAfter]
    split
    · exact ih kept
    · rw [ih, List.cons_append, List.append_assoc]
      rfl

theorem distinct_concat (items : List α) (x : α) :
    distinct (items ++ [x]) =
      if (distinct items).contains x then distinct items else distinct items ++ [x] := by
  have happend : distinct (items ++ [x]) = distinct items ++ distinctAfter (distinct items) [x] :=
    distinctAfter_append [] items [x]
  rw [happend, distinctAfter]
  split
  · exact List.append_nil _
  · rfl

/-- The items that equal none before them, with their positions. -/
def firsts (items : List α) : List (α × Nat) :=
  items.zipIdx.filter fun entry => !(items.take entry.2).contains entry.1

theorem firsts_concat (items : List α) (x : α) :
    firsts (items ++ [x]) =
      if items.contains x then firsts items else firsts items ++ [(x, items.length)] := by
  have hitems : (items.zipIdx.filter fun entry =>
      !((items ++ [x]).take entry.2).contains entry.1) = firsts items := by
    apply List.filter_congr
    intro entry hentry
    have hlt : entry.2 < items.length := List.snd_lt_of_mem_zipIdx hentry
    rw [List.take_append_of_le_length (Nat.le_of_lt hlt)]
  rw [firsts, List.zipIdx_append, List.filter_append, hitems, List.zipIdx_singleton,
    List.filter_cons, List.filter_nil, Nat.zero_add, List.take_left]
  cases items.contains x with
  | true => exact List.append_nil _
  | false => rfl

theorem contains_eq_false_iff {items : List α} {x : α} :
    items.contains x = false ↔ ∀ y ∈ items, (x == y) = false := by
  rw [List.contains_eq_any_beq, List.any_eq_false]
  exact forall₂_congr fun y _ => Bool.eq_false_iff.symm

section

variable [PartialEquivBEq α]

/-- The items that stayed stand for all items: what equals one of the others equals one of them. -/
theorem contains_distinct (items : List α) (x : α) :
    (distinct items).contains x = items.contains x := by
  induction items using List.reverseRecOn generalizing x with
  | nil => rfl
  | append_singleton items y ih =>
    rw [distinct_concat, ih, List.contains_append, List.contains_cons, List.contains_nil,
      Bool.or_false]
    split
    · -- What equals the item left out equals what that one equals.
      rename_i hy
      rw [ih]
      cases hxy : x == y with
      | false => rw [Bool.or_false]
      | true => rw [List.contains_congr hxy, hy, Bool.or_true]
    · rw [List.contains_append, ih, List.contains_cons, List.contains_nil, Bool.or_false]

theorem distinct_eq_map_firsts (items : List α) : distinct items = (firsts items).map (·.1) := by
  induction items using List.reverseRecOn with
  | nil => rfl
  | append_singleton items x ih =>
    rw [distinct_concat, contains_distinct, firsts_concat, ih]
    split
    · rfl
    · rw [List.map_append, List.map_singleton]

theorem contains_eq_false_of_not_beq_self {x : α} (h : (x == x) = false) (items : List α) :
    items.contains x = false := by
  apply contains_eq_false_iff.2
  intro y _
  apply Bool.eq_false_iff.2
  intro hxy
  have hself : (x == x) = true := BEq.trans hxy (BEq.symm hxy)
  rw [h] at hself
  cases hself

/-- Neither of two items equals the other. -/
def Differ (x y : α) : Prop :=
  (x == y) = false ∧ (y == x) = false

theorem pairwise_differ_concat_iff {items : List α} {x : α} :
    (items ++ [x]).Pairwise Differ ↔ items.Pairwise Differ ∧ items.contains x = false := by
  rw [List.pairwise_append, contains_eq_false_iff]
  constructor
  · intro ⟨hitems, _, hlast⟩
    exact ⟨hitems, fun y hy => (hlast y hy x List.mem_cons_self).2⟩
  · intro ⟨hitems, hlast⟩
    refine ⟨hitems, List.pairwise_singleton _ x, ?_⟩
    intro y hy z hz
    rw [List.mem_singleton.1 hz]
    exact ⟨BEq.comm.trans (hlast y hy), hlast y hy⟩

theorem pairwise_differ_distinct (items : List α) : (distinct items).Pairwise Differ := by
  induction items using List.reverseRecOn with
  | nil => exact .nil
  | append_singleton items x ih =>
    rw [distinct_concat]
    split
    · exact ih
    · rename_i hx
      exact pairwise_differ_concat_iff.2 ⟨ih, Bool.eq_false_iff.2 hx⟩

theorem distinct_of_pairwise_differ {items : List α} (h : items.Pairwise Differ) :
    distinct items = items := by
  induction items using List.reverseRecOn with
  | nil => rfl
  | append_singleton items x ih =>
    obtain ⟨hitems, hx⟩ := pairwise_differ_concat_iff.1 h
    rw [distinct_concat, contains_distinct, hx, ih hitems]
    rfl

/-- What is kept of a list: the items that equal none before them. No two of them are equal, an item
that equals itself has an equal one among them, and one that does not is kept wherever it stands. -/
structure KeepsFirsts (items kept : List α) : Prop where
  eq_map_firsts : kept = (firsts items).map (·.1)
  pairwise : kept.Pairwise Differ
  exists_beq : ∀ x ∈ items, (x == x) = true → ∃ y ∈ kept, (x == y) = true
  mem_firsts : ∀ entry ∈ items.zipIdx, (entry.1 == entry.1) = false → entry ∈ firsts items

/-- Taking out repetitions keeps the first of equal items, and doing it again changes nothing, even
where items differ from themselves. -/
theorem distinct_keeps_firsts (items : List α) :
    KeepsFirsts items (distinct items) ∧ distinct (distinct items) = distinct items := by
  refine ⟨?_, distinct_of_pairwise_differ (pairwise_differ_distinct items)⟩
  constructor
  case eq_map_firsts => exact distinct_eq_map_firsts items
  case pairwise => exact pairwise_differ_distinct items
  case exists_beq =>
    intro x hx hself
    have hcontains : items.contains x = true := List.contains_iff_exists_mem_beq.2 ⟨x, hx, hself⟩
    rw [← contains_distinct] at hcontains
    exact List.contains_iff_exists_mem_beq.1 hcontains
  case mem_firsts =>
    intro entry hentry hself
    apply List.mem_filter.2
    refine ⟨hentry, ?_⟩
    rw [contains_eq_false_of_not_beq_self hself]
    rfl

/-- Cells of a column of measurements: two failed, and zero was measured with either sign. -/
def measurements : List Value :=
  [.float .nan, .int 1, .float .nan, .float (.ofMagnitude false 0), .int 1,
    .float (.ofMagnitude true 0)]

theorem distinct_keeps_firsts_measurements :
    PartialEquivBEq Value ∧ (Value.float .nan == .float .nan) = false ∧
      KeepsFirsts measurements (distinct measurements) ∧
      distinct (distinct measurements) = distinct measurements ∧
      (firsts measurements).map (·.2) = [0, 1, 2, 3] :=
  ⟨inferInstance, by decide, (distinct_keeps_firsts measurements).1,
    (distinct_keeps_firsts measurements).2, by decide⟩

end

section

variable [LawfulBEq α]

theorem mem_distinct {items : List α} {x : α} : x ∈ distinct items ↔ x ∈ items := by
  rw [← List.contains_iff_mem, contains_distinct, List.contains_iff_mem]

theorem nodup_distinct (items : List α) : (distinct items).Nodup :=
  (pairwise_differ_distinct items).imp fun h => ne_of_beq_false h.1

theorem distinct_filter (p : α → Bool) (items : List α) :
    distinct (items.filter p) = (distinct items).filter p := by
  induction items using List.reverseRecOn with
  | nil => rfl
  | append_singleton items x ih =>
    cases hp : p x with
    | false =>
      have hlast : [x].filter p = [] := List.filter_cons_of_neg (Bool.eq_false_iff.1 hp)
      rw [List.filter_append, hlast, List.append_nil, ih, distinct_concat]
      split
      · rfl
      · rw [List.filter_append, hlast, List.append_nil]
    | true =>
      have hlast : [x].filter p = [x] := List.filter_cons_of_pos hp
      have hkept : (distinct (items.filter p)).contains x = (distinct items).contains x := by
        rw [contains_distinct, contains_distinct, Bool.eq_iff_iff, List.contains_iff_mem,
          List.contains_iff_mem, List.mem_filter, and_iff_left hp]
      rw [List.filter_append, hlast, distinct_concat, distinct_concat, hkept]
      split
      · exact ih
      · rw [List.filter_append, hlast, ih]

theorem pairwise_idxOf_distinct (items : List α) :
    (distinct items).Pairwise fun x y => items.idxOf x < items.idxOf y := by
  induction items using List.reverseRecOn with
  | nil => exact .nil
  | append_singleton items x ih =>
    have hold : (distinct items).Pairwise fun y z =>
        (items ++ [x]).idxOf y < (items ++ [x]).idxOf z := by
      apply ih.imp_of_mem
      intro y z hy hz hlt
      rw [List.idxOf_append_of_mem (mem_distinct.1 hy),
        List.idxOf_append_of_mem (mem_distinct.1 hz)]
      exact hlt
    rw [distinct_concat]
    split
    · exact hold
    · rename_i hx
      rw [contains_distinct, List.contains_iff_mem] at hx
      apply List.pairwise_append.2
      refine ⟨hold, List.pairwise_singleton _ x, ?_⟩
      intro y hy z hz
      rw [List.mem_singleton.1 hz, List.idxOf_append_of_mem (mem_distinct.1 hy),
        List.idxOf_append_of_notMem hx]
      exact Nat.lt_add_right _ (List.idxOf_lt_length_of_mem (mem_distinct.1 hy))

end

end RelSchema
