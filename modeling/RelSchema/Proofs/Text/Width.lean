import RelSchema.Proofs.Text.Lines

namespace RelSchema.Text

/-- The columns that what stands to the right has given and may have to give back. -/
def Ahead.debt : Ahead → Int
  | .coengLetter | .tifinaghJoiner | .joinedRegional | .joinedOddRegionals => 1
  | _ => 0

theorem Ahead.debt_nonneg (ahead : Ahead) : 0 ≤ ahead.debt := by
  unfold debt
  split <;> decide

theorem Ahead.debt_join (ahead : Ahead) : ahead.join.debt = ahead.debt := by
  cases ahead <;> rfl

/-- What a step gives, with what was owed before it, covers what is owed after it. -/
def Covers (debt : Int) (step : Int × RightContext) : Prop :=
  step.2.ahead.debt ≤ step.1 + debt

instance (debt : Int) (step : Int × RightContext) : Decidable (Covers debt step) :=
  inferInstanceAs (Decidable (step.2.ahead.debt ≤ step.1 + debt))

namespace Covers

variable {debt debt' : Int} {step other : Int × RightContext}

theorem mono (h : Covers debt step) (hdebt : debt ≤ debt') : Covers debt' step := by
  unfold Covers at h ⊢
  omega

/-- Of two steps, the second pays for what the first one owes. -/
theorem trans (h : Covers debt step) (hother : Covers step.2.ahead.debt other) :
    Covers debt (other.1 + step.1, other.2) := by
  unfold Covers at h hother ⊢
  dsimp only
  omega

theorem ite {p : Prop} [Decidable p] (h : Covers debt step) (hother : Covers debt other) :
    Covers debt (if p then step else other) := by
  split
  · exact h
  · exact hother

theorem of_le {columns : Int} {right : RightContext} (hcolumns : 0 ≤ columns)
    (h : right.ahead.debt ≤ debt) : Covers debt (columns, right) :=
  Int.le_trans h (Int.le_add_of_nonneg_left hcolumns)

end Covers

variable {c : Char} {ahead : Ahead}

theorem debt_keep_le (right : RightContext) {p : Prop} [Decidable p] (kept other : Selectors) :
    (if p then ⟨right.ahead, kept⟩ else ⟨.plain, other⟩ : RightContext).ahead.debt ≤
      right.ahead.debt := by
  split
  · exact Int.le_refl _
  · exact right.ahead.debt_nonneg

theorem debt_pass_le (right : RightContext) (kept : Selectors) :
    (right.pass kept).ahead.debt ≤ right.ahead.debt :=
  debt_keep_le right kept _

theorem covers_measureAlone (c : Char) : Covers 0 (measureAlone c) := by
  unfold measureAlone
  repeat' apply Covers.ite
  all_goals decide

theorem covers_measureJoined {step : Int × RightContext} (h : measureJoined c ahead = some step) :
    Covers ahead.debt step := by
  cases ahead with
  | joinedFlag tags =>
    simp only [measureJoined] at h
    split at h
    · cases h
      exact .of_le (by decide) (Int.le_refl 0)
    · obtain ⟨_, _, rfl⟩ := Option.map_eq_some_iff.1 h
      exact .of_le (by decide) (Int.le_refl 0)
  | _ =>
    simp only [measureJoined] at h
    repeat' split at h
    all_goals cases h <;> decide

theorem covers_measureUnselected (c : Char) (right : RightContext) :
    Covers right.ahead.debt (measureUnselected c right) := by
  have halone := (covers_measureAlone c).mono right.ahead.debt_nonneg
  have hjoin := Int.le_of_eq right.ahead.debt_join
  refine .ite (.of_le (by decide) hjoin) (.ite (.of_le (by decide) (Int.le_refl _))
    (.ite ?_ halone))
  cases hjoined : measureJoined c right.ahead with
  | none => exact halone
  | some step => exact covers_measureJoined hjoined

theorem covers_measureWide (c : Char) (right : RightContext) :
    Covers right.ahead.debt (measureWide c right) := by
  have hplain := right.ahead.debt_nonneg
  have hpass (kept : Selectors) :=
    (covers_measureUnselected c (right.pass kept)).mono (debt_pass_le right kept)
  unfold measureWide
  refine .ite ((covers_measureAlone c).mono hplain) ?_
  refine .ite (.of_le (by decide) (debt_keep_le right _ _)) ?_
  refine .ite (.of_le (by decide) (debt_keep_le right _ _)) ?_
  refine .ite (.of_le (by decide) (debt_keep_le right _ _)) ?_
  refine .ite (.ite (.of_le (by decide) hplain) (hpass _)) ?_
  exact .ite (.ite (.of_le (by decide) hplain) (hpass _)) (covers_measureUnselected c right)

/-- A character takes back no more than what stands to its right has given. -/
theorem covers_measure (c : Char) (right : RightContext) :
    Covers right.ahead.debt (measure c right) := by
  have hplain := right.ahead.debt_nonneg
  unfold measure
  refine .ite (.of_le ?_ hplain) ?_
  · split <;> decide
  · extract_lets kept passed
    have hpassed : passed.ahead.debt ≤ right.ahead.debt := by
      unfold passed
      split
      · exact debt_pass_le right _
      · exact Int.le_refl _
    refine .ite ?_ ((covers_measureWide c passed).mono hpassed)
    refine .ite (.of_le (by decide) hplain) ?_
    exact .ite (.of_le (by decide) hplain) (.of_le (by decide) hplain)

theorem measureAll_cons (c : Char) (rest : List Char) :
    measureAll (c :: rest) = ((measure c (measureAll rest).2).1 + (measureAll rest).1,
      (measure c (measureAll rest).2).2) := rfl

theorem covers_measureAll (cs : List Char) : Covers 0 (measureAll cs) := by
  induction cs with
  | nil => decide
  | cons c rest ih => exact ih.trans (covers_measure c (measureAll rest).2)

theorem measureAll_nonneg (cs : List Char) : 0 ≤ (measureAll cs).1 := by
  have hcovers := covers_measureAll cs
  have hnonneg := (measureAll cs).2.ahead.debt_nonneg
  unfold Covers at hcovers
  omega

theorem measureAll_blanks (n : Nat) :
    measureAll (List.replicate n ' ') = ((n : Int), Ahead.plain.context) := by
  have hblank : measure ' ' Ahead.plain.context = (1, Ahead.plain.context) := by decide
  induction n with
  | zero => rfl
  | succ n ih =>
    rw [List.replicate_succ, measureAll_cons, ih, hblank, Int.add_comm]
    rfl

/-- Blanks are nothing to the characters before them. -/
theorem measureAll_append_blanks (cs : List Char) (n : Nat) :
    measureAll (cs ++ List.replicate n ' ') = ((measureAll cs).1 + n, (measureAll cs).2) := by
  induction cs with
  | nil => rw [List.nil_append, measureAll_blanks, measureAll, Int.zero_add]
  | cons c rest ih => rw [List.cons_append, measureAll_cons, ih, measureAll_cons, Int.add_assoc]

theorem width_append_blanks (s : String) (n : Nat) : width (s ++ blanks n) = width s + n := by
  have hnonneg := measureAll_nonneg s.toList
  rw [width, width, String.toList_append, blanks, String.toList_ofList, measureAll_append_blanks]
  omega

end RelSchema.Text
