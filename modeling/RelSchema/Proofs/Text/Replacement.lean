import RelSchema.Text.Split

namespace RelSchema.Text

variable {old new : List Char}

theorem replaceList_of_not_infix {cs : List Char} (h : ¬ old <:+: cs) :
    replaceList old new cs = cs := by
  induction cs with
  | nil => rw [replaceList]
  | cons c cs ih =>
    rw [List.infix_cons_iff, not_or] at h
    rw [replaceList, if_neg fun hold => h.1 hold.2, ih h.2]

theorem length_replaceList_nil_le (old cs : List Char) :
    (replaceList old [] cs).length ≤ cs.length := by
  fun_induction replaceList old [] cs with
  | case1 => exact Nat.le_refl 0
  | case2 c cs hold ih =>
    rw [List.nil_append]
    exact Nat.le_trans ih (List.drop_sublist _ _).length_le
  | case3 c cs hold ih => exact Nat.succ_le_succ ih

theorem length_replaceList_nil_lt (hold : old ≠ []) {cs : List Char} (h : old <:+: cs) :
    (replaceList old [] cs).length < cs.length := by
  fun_induction replaceList old [] cs with
  | case1 => exact absurd (List.infix_nil.1 h) hold
  | case2 c cs hstart _ =>
    have hlength : 0 < old.length := List.length_pos_iff.2 hold
    have hrest := length_replaceList_nil_le old ((c :: cs).drop old.length)
    rw [List.nil_append]
    rw [List.length_drop, List.length_cons] at hrest
    rw [List.length_cons]
    omega
  | case3 c cs hstart ih =>
    rcases List.infix_cons_iff.1 h with h | h
    · exact absurd ⟨hold, h⟩ hstart
    · exact Nat.succ_lt_succ (ih h)

theorem replaceList_nil_eq_self_iff (hold : old ≠ []) {cs : List Char} :
    replaceList old [] cs = cs ↔ ¬ old <:+: cs := by
  constructor
  · intro h hinfix
    have hlength := length_replaceList_nil_lt hold hinfix
    rw [h] at hlength
    exact Nat.lt_irrefl _ hlength
  · exact replaceList_of_not_infix

/-- A part that begins with a character found nowhere else in it cannot begin before an ending and
reach into it. -/
theorem prefix_of_prefix_append {c : Char} {tail cs : List Char} (hc : c ∉ tail)
    (h : tail <+: cs ++ c :: tail) : tail <+: cs := by
  have hconcat : cs ++ [c] <+: cs ++ c :: tail := ⟨tail, by simp⟩
  rcases List.prefix_or_prefix_of_prefix h hconcat with htail | hcs
  · rcases List.prefix_concat_iff.1 htail with rfl | htail
    · exact absurd (List.mem_append_right cs (List.mem_singleton_self c)) hc
    · exact htail
  · exact absurd (hcs.subset (List.mem_append_right cs (List.mem_singleton_self c))) hc

theorem replaceList_append_self {c : Char} {tail cs : List Char} (hc : c ∉ tail)
    (h : ¬ c :: tail <:+: cs) : replaceList (c :: tail) new (cs ++ c :: tail) = cs ++ new := by
  induction cs with
  | nil =>
    rw [List.nil_append, replaceList, if_pos ⟨List.cons_ne_nil _ _, List.prefix_refl _⟩,
      List.drop_length, replaceList, List.append_nil, List.nil_append]
  | cons b cs ih =>
    rw [List.infix_cons_iff, not_or] at h
    have hstart : ¬ c :: tail <+: b :: (cs ++ c :: tail) := by
      intro hprefix
      obtain ⟨rfl, htail⟩ := List.cons_prefix_cons.1 hprefix
      exact h.1 (List.cons_prefix_cons.2 ⟨rfl, prefix_of_prefix_append hc htail⟩)
    rw [List.cons_append, replaceList, if_neg fun hold => hstart hold.2, ih h.2]
    rfl

end RelSchema.Text
