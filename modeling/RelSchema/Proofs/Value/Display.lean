import RelSchema.Proofs.Text.Casing
import RelSchema.Value

namespace RelSchema

/-- The characters that numbers and names of values are written with. -/
def isPlainChar (c : Char) : Bool :=
  c.isAlphanum || c = '-' || c = '.'

theorem toNat_of_isPlainChar {c : Char} (h : isPlainChar c = true) :
    0x2D ≤ c.toNat ∧ c.toNat ≤ 0x7A := by
  change (c.isUpper || c.isLower || c.isDigit || decide (c = '-') || decide (c = '.')) = true at h
  simp only [Bool.or_eq_true, decide_eq_true_eq, Text.isUpper_iff, Text.isLower_iff,
    Char.isDigit_iff_toNat, Char.reduceToNat] at h
  rcases h with (h | rfl) | rfl
  · omega
  · decide
  · decide

theorem isBlank_of_isPlainChar {c : Char} (h : isPlainChar c = true) : Text.isBlank c = false := by
  obtain ⟨hlow, hhigh⟩ := toNat_of_isPlainChar h
  simp only [Text.isBlank, Text.whiteSpace, Text.Ranges.contains, List.any_cons, List.any_nil,
    Bool.or_eq_false_iff, Bool.and_eq_false_iff, decide_eq_false_iff_not, and_true]
  omega

/-- There is something to read, and it cannot be taken for a blank, a quote or a separator. -/
structure IsPlain (cs : List Char) : Prop where
  ne_nil : cs ≠ []
  all : cs.all isPlainChar = true

theorem IsPlain.append {cs ds : List Char} (hcs : cs.all isPlainChar = true) (hds : IsPlain ds) :
    IsPlain (cs ++ ds) where
  ne_nil h := hds.ne_nil (List.append_eq_nil_iff.1 h).2
  all := by rw [List.all_append, hcs, hds.all]; rfl

theorem all_isPlainChar_toDigits (n : Nat) : (Nat.toDigits 10 n).all isPlainChar = true := by
  rw [List.all_eq_true]
  intro c hc
  have hdigit := Nat.isDigit_of_mem_toDigits (by decide) (by decide) hc
  simp [isPlainChar, Char.isAlphanum, hdigit]

theorem isPlain_natText (n : Nat) : IsPlain (toString n).toList := by
  rw [Nat.toString_eq_repr, Nat.toList_repr]
  exact ⟨Nat.toDigits_ne_nil, all_isPlainChar_toDigits n⟩

theorem toList_negSuccText (n : Nat) :
    (toString (Int.negSucc n)).toList = ['-'] ++ (toString (n + 1)).toList :=
  String.toList_append

theorem isPlain_intText (n : Int) : IsPlain (toString n).toList := by
  cases n with
  | ofNat n => exact isPlain_natText n
  | negSucc n =>
    rw [toList_negSuccText]
    exact .append (by decide) (isPlain_natText (n + 1))

theorem exists_natDigits (n : Nat) :
    ∃ c cs, (toString n).toList = c :: cs ∧ ∀ d ∈ c :: cs, d.isDigit = true := by
  rw [Nat.toString_eq_repr, Nat.toList_repr]
  obtain ⟨c, cs, hdigits⟩ := List.exists_cons_of_ne_nil (Nat.toDigits_ne_nil (n := n) (b := 10))
  refine ⟨c, cs, hdigits, fun d hd => ?_⟩
  exact Nat.isDigit_of_mem_toDigits (by decide) (by decide) (hdigits ▸ hd)

theorem exists_intDigits (n : Int) :
    ∃ c cs, ((toString n).toList = c :: cs ∨ (toString n).toList = '-' :: c :: cs) ∧
      ∀ d ∈ c :: cs, d.isDigit = true := by
  cases n with
  | ofNat n =>
    obtain ⟨c, cs, htext, hdigits⟩ := exists_natDigits n
    exact ⟨c, cs, .inl htext, hdigits⟩
  | negSucc n =>
    obtain ⟨c, cs, htext, hdigits⟩ := exists_natDigits (n + 1)
    exact ⟨c, cs, .inr (by rw [toList_negSuccText, htext]; rfl), hdigits⟩

namespace NumberStyle

theorem isPlain_positionalText {style : NumberStyle}
    (hsuffix : style.wholeSuffix.toList.all isPlainChar = true) {digits : List Char}
    (h : digits.all isPlainChar = true) (point : Int) :
    IsPlain (style.positionalText digits point).toList := by
  have hzeros : ∀ n : Nat, (List.replicate n '0').all isPlainChar = true := by
    intro n
    rw [List.all_eq_true]
    intro c hc
    rw [List.eq_of_mem_replicate hc]
    decide
  unfold positionalText
  split
  · simp only [String.toList_append, String.toList_ofList]
    refine ⟨by simp, ?_⟩
    rw [List.all_append, List.all_append, hzeros, h]
    decide
  · rename_i hpoint
    split
    · rename_i hlength
      -- Without digits there are zeros, since the point stands behind the first place.
      rw [String.toList_append, String.toList_ofList]
      constructor
      · intro hnil
        have hsum := congrArg List.length (List.append_eq_nil_iff.1 hnil).1
        rw [List.length_append, List.length_replicate, List.length_nil] at hsum
        omega
      · rw [List.all_append, List.all_append, hzeros, h, hsuffix]
        rfl
    · simp only [String.toList_append, String.toList_ofList]
      refine ⟨by simp, ?_⟩
      have hparts : (digits.take point.toNat).all isPlainChar = true ∧
          (digits.drop point.toNat).all isPlainChar = true := by
        rw [← Bool.and_eq_true, ← List.all_append, List.take_append_drop]
        exact h
      rw [List.all_append, List.all_append, hparts.1, hparts.2]
      decide

theorem isPlain_magnitudeText (x : Dyadic) : IsPlain (plain.magnitudeText x).toList := by
  have hdigits : ∀ n : Nat,
      ((Nat.toDigits 10 n).reverse.dropWhile (· = '0')).reverse.all isPlainChar = true := by
    intro n
    rw [List.all_eq_true]
    intro c hc
    have hmem := (List.dropWhile_sublist _).subset (List.mem_reverse.1 hc)
    exact List.all_eq_true.1 (all_isPlainChar_toDigits n) c (List.mem_reverse.1 hmem)
  exact isPlain_positionalText (by decide) (hdigits _) _

theorem isPlain_text (x : Binary64) : IsPlain (plain.text x).toList := by
  unfold text
  split
  · exact ⟨by decide, by decide⟩
  · rw [String.toList_append]
    refine .append (by split <;> decide) ?_
    split
    · exact ⟨by decide, by decide⟩
    · split
      · exact ⟨by decide, by decide⟩
      · exact isPlain_magnitudeText _

end NumberStyle

theorem Value.isPlain_display {v : Value} (h : v.text? = none) : IsPlain v.display.toList := by
  cases v with
  | null => exact ⟨by decide, by decide⟩
  | bool b => cases b <;> exact ⟨by decide, by decide⟩
  | int n => exact isPlain_intText _
  | float x => exact NumberStyle.isPlain_text x
  | text s => cases h

end RelSchema
