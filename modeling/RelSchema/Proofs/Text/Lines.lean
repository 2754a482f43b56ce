import Mathlib.Data.List.TakeWhile
import RelSchema.Proofs.Text.Split
import RelSchema.Text.Naming
import RelSchema.Text.Width

namespace RelSchema.Text

def IsLine (s : String) : Prop :=
  '\n' ∉ s.toList

instance (s : String) : Decidable (IsLine s) :=
  inferInstanceAs (Decidable ('\n' ∉ s.toList))

/-- What stands behind the first line of a text, with the line's end before it. -/
def behindLine (s : String) : String :=
  .ofList (s.toList.dropWhile (· ≠ '\n'))

def blanks (n : Nat) : String :=
  .ofList (List.replicate n ' ')

theorem padRight_eq (s : String) (columns : Nat) :
    padRight s columns = s ++ blanks (columns - width s) := rfl

@[simp] theorem isLine_append {s t : String} : IsLine (s ++ t) ↔ IsLine s ∧ IsLine t := by
  simp [IsLine]

@[simp] theorem isLine_blanks (n : Nat) : IsLine (blanks n) := by
  rw [IsLine, blanks, String.toList_ofList, List.mem_replicate]
  rintro ⟨_, h⟩
  cases h

theorem IsLine.stripId {s : String} (h : IsLine s) : IsLine (stripId s) := by
  unfold Text.stripId dropSuffix?
  split
  · rw [Option.getD_some, IsLine, String.toList_ofList]
    exact fun hmem => h (List.mem_of_mem_take hmem)
  · exact h

theorem isLine_intercalate {sep : String} (h : IsLine sep) (parts : List String) :
    IsLine (sep.intercalate parts) ↔ ∀ s ∈ parts, IsLine s := by
  induction parts with
  | nil => simp [IsLine]
  | cons s parts ih =>
    cases parts with
    | nil => simp
    | cons next parts =>
      rw [String.intercalate_cons_cons, isLine_append, isLine_append, ih, and_iff_left h]
      exact List.forall_mem_cons.symm

theorem IsLine.behindLine_eq {s : String} (h : IsLine s) : behindLine s = "" := by
  have hnil : s.toList.dropWhile (· ≠ '\n') = [] := by
    rw [List.dropWhile_eq_nil_iff]
    intro c hc
    exact decide_eq_true fun heq => h (heq ▸ hc)
  rw [behindLine, hnil]

end RelSchema.Text
