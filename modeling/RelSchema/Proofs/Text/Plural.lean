import RelSchema.Proofs.Text.Casing
import RelSchema.Proofs.Text.Split
import RelSchema.Text.Naming

namespace RelSchema.Text

theorem suffix_append_cons_iff {c : Char} {ending : List Char} (h : c ∉ ending)
    (before after : List Char) : ending <:+ before ++ c :: after ↔ ending <:+ after := by
  have hafter : after <:+ before ++ c :: after :=
    (List.suffix_cons c after).trans (List.suffix_append before _)
  constructor
  · intro hending
    rcases Nat.lt_or_ge after.length ending.length with hlt | hle
    · have hreach : c :: after <:+ ending :=
        List.suffix_of_suffix_length_le (List.suffix_append before _) hending hlt
      exact absurd (hreach.mem List.mem_cons_self) h
    · exact List.suffix_of_suffix_length_le hending hafter hle
  · intro hending
    exact hending.trans hafter

/-- What stands before a text can change its sigmas in lower case, and nothing else. -/
theorem forall₂_lowerAfter_lowerAfter (before other cs : List Char) :
    List.Forall₂ LowersTo (lowerAfter before cs) (lowerAfter other cs) := by
  induction cs generalizing before other with
  | nil => exact .nil
  | cons c cs ih =>
    rw [lowerAfter, lowerAfter]
    apply List.rel_append
    · split
      · apply List.Forall₂.cons _ .nil
        intro hascii
        split at hascii <;> exact absurd hascii (by decide)
      · exact List.forall₂_same.2 fun x _ _ _ => rfl
    · exact ih (c :: before) (c :: other)

theorem suffix_lowerAfter {before cs ending : List Char}
    (hending : ∀ d ∈ ending, d.toNat < 0x80 ∧ d.isUpper = false)
    (h : ending <:+ lowerAfter before cs) (other : List Char) : ending <:+ lowerAfter other cs := by
  obtain ⟨front, hfront⟩ := h
  have hforall := forall₂_lowerAfter_lowerAfter before other cs
  rw [← hfront] at hforall
  have hend := (List.forall₂_drop_append _ _ _ hforall.flip).flip
  rw [← eq_of_forall₂_lowersTo hend hending]
  exact List.drop_suffix _ _

theorem exists_lowerAfter_append (before cs after : List Char) :
    ∃ front, lowerAfter before (cs ++ after) =
      front ++ lowerAfter (cs.reverse ++ before) after := by
  induction cs generalizing before with
  | nil => exact ⟨[], rfl⟩
  | cons c cs ih =>
    obtain ⟨front, hfront⟩ := ih (c :: before)
    rw [List.cons_append, lowerAfter, hfront, List.reverse_cons, List.append_assoc]
    exact ⟨_, (List.append_assoc _ _ _).symm⟩

theorem not_cased_of_not_isLetter {c : Char} (h : isLetter c = false) :
    c.isUpper = false ∧ c.isLower = false := by
  change (c.isUpper || c.isLower || _) = false at h
  rw [Bool.or_eq_false_iff, Bool.or_eq_false_iff] at h
  exact h.1

theorem ascii_of_isLower {c : Char} (h : c.isLower = true) :
    c.toNat < 0x80 ∧ c.isUpper = false := by
  have hlower := isLower_iff.1 h
  refine ⟨by omega, ?_⟩
  rw [← Bool.not_eq_true, isUpper_iff]
  omega

theorem endsWith_lower_append {c : Char} (hascii : c.toNat < 0x80) (hletter : isLetter c = false)
    {ending : String} (hending : ending.toList.all Char.isLower = true) (start word : String) :
    endsWith (lower (start ++ c.toString ++ word)) ending = endsWith (lower word) ending := by
  obtain ⟨hupper, hlower⟩ := not_cased_of_not_isLetter hletter
  have hsigma : c ≠ 'Σ' := by
    rintro rfl
    exact absurd hascii (by decide)
  have hc : c ∉ ending.toList := by
    intro hmem
    have hsmall := List.all_eq_true.1 hending c hmem
    rw [hlower] at hsmall
    cases hsmall
  have hcharacters : ∀ d ∈ ending.toList, d.toNat < 0x80 ∧ d.isUpper = false := fun d hd =>
    ascii_of_isLower (List.all_eq_true.1 hending d hd)
  obtain ⟨front, hfront⟩ := exists_lowerAfter_append [] start.toList (c :: word.toList)
  rw [lowerAfter, if_neg hsigma, lowerChar_of_ascii hascii hupper] at hfront
  rw [Bool.eq_iff_iff, endsWith, endsWith, List.isSuffixOf_iff_suffix, List.isSuffixOf_iff_suffix,
    lower, lower, String.toList_ofList, String.toList_ofList, toList_append_toString_append,
    hfront, List.singleton_append, suffix_append_cons_iff hc]
  constructor
  · intro h
    exact suffix_lowerAfter hcharacters h _
  · intro h
    exact suffix_lowerAfter hcharacters h _

/-- A last word that is a mere `y` has no consonant before it, as the separator is no letter. -/
theorem consonantStem?_append {c : Char} (hletter : isLetter c = false) (start : String)
    {word : String} (h : word ≠ "") :
    consonantStem? (start ++ c.toString ++ word) =
      (consonantStem? word).map (start ++ c.toString ++ ·) := by
  rw [consonantStem?, consonantStem?, toList_append_toString_append, List.reverse_append,
    List.reverse_cons, List.append_assoc]
  cases hword : word.toList.reverse with
  | nil =>
    have hempty := String.toList_eq_nil_iff.1 (List.reverse_eq_nil_iff.1 hword)
    exact absurd hempty h
  | cons y rest =>
    cases rest with
    | nil =>
      simp only [List.cons_append, List.nil_append, hletter, Bool.and_false, Bool.false_and]
      rfl
    | cons d rest =>
      simp only [List.cons_append]
      split
      · apply congrArg some
        apply String.toList_inj.1
        rw [toList_append_toString_append, String.toList_ofList, String.toList_ofList]
        simp only [List.reverse_cons, List.reverse_append, List.reverse_reverse, List.append_assoc,
          List.nil_append, List.cons_append]
      · rfl

/-- The characters that stand between the words of a name. -/
def wordSeparators : List Char :=
  ['_', ' ', '.', '-']

theorem of_mem_wordSeparators {c : Char} (h : c ∈ wordSeparators) :
    c.toNat < 0x80 ∧ isLetter c = false := by
  simp only [wordSeparators, List.mem_cons, List.not_mem_nil, or_false] at h
  rcases h with rfl | rfl | rfl | rfl <;> decide

/-- The plural of a name is made on its last word alone, whatever stands before the separator. -/
theorem plural_append_word (start : String) {c : Char} (hc : c ∈ wordSeparators) {word : String}
    (hword : word ≠ "") :
    plural (start ++ c.toString ++ word) = start ++ c.toString ++ plural word := by
  obtain ⟨hascii, hletter⟩ := of_mem_wordSeparators hc
  have hname : (start ++ c.toString ++ word).isEmpty = false := by
    rw [← Bool.not_eq_true, String.isEmpty_iff, ← String.toList_eq_nil_iff,
      toList_append_toString_append]
    exact List.append_ne_nil_of_right_ne_nil _ (List.cons_ne_nil _ _)
  have halone : word.isEmpty = false := by
    rw [← Bool.not_eq_true, String.isEmpty_iff]
    exact hword
  have hsmall : ∀ ending ∈ ["s", "sh", "ch", "x", "z"], ending.toList.all Char.isLower = true := by
    decide
  have hendings : ["s", "sh", "ch", "x", "z"].any
        (endsWith (lower (start ++ c.toString ++ word))) =
      ["s", "sh", "ch", "x", "z"].any (endsWith (lower word)) := by
    rw [Bool.eq_iff_iff, List.any_eq_true, List.any_eq_true]
    apply exists_congr
    intro ending
    apply and_congr_right
    intro hmem
    rw [endsWith_lower_append hascii hletter (hsmall ending hmem)]
  rw [plural, plural, hname, halone, if_neg Bool.false_ne_true, if_neg Bool.false_ne_true,
    hendings, consonantStem?_append hletter start hword]
  split
  · exact String.append_assoc ..
  · cases consonantStem? word with
    | none => exact String.append_assoc ..
    | some stem => exact String.append_assoc ..

theorem plural_append_word_letters :
    '-' ∈ wordSeparators ∧ "h" ≠ "" ∧
      plural ("s" ++ '-'.toString ++ "h") = "s" ++ '-'.toString ++ plural "h" :=
  ⟨by decide, by decide, plural_append_word "s" (by decide) (by decide)⟩

end RelSchema.Text
