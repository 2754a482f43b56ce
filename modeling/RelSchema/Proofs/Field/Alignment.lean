import RelSchema.Proofs.Field.Comment
import RelSchema.Proofs.Field.InlineConstraint
import RelSchema.Proofs.Text.Width

namespace RelSchema.Field

open Text (blanks width width_append_blanks)

/-- Behind the declaration that the field has without comments stand blanks, then the description in
a comment. -/
structure HasComment (d : Dialect) (f : Field) (line : String) (gap : Nat) : Prop where
  bare : f.uncommented.definition d = .ok line
  text : f.definition d = .ok (line ++ blanks gap ++ ("-- " ++ f.spec.description))

variable {d : Dialect} {f : Field} {line : String} {gap : Nat}

theorem exists_uncommented_iff (hd : d.isSql = true) :
    (∃ line, f.uncommented.definition d = .ok line) ↔ f.spec.type ≠ none := by
  constructor
  · rintro ⟨line, hbare⟩ htype
    rw [definition_of_untyped (f := f.uncommented) hd htype] at hbare
    cases hbare
  · intro htyped
    obtain ⟨column, hcolumn, -⟩ := exists_sqlColumn htyped hd
    exact ⟨_, definition_uncommented hd hcolumn⟩

section

variable (hd : d.isSql = true) (hoffset : f.options.commentOffset ≠ 0)
  (hdescription : f.spec.description ≠ "")

include hd hoffset hdescription

theorem hasComment_of_uncommented (h : f.uncommented.definition d = .ok line) :
    f.HasComment d line (f.options.commentOffset - width line - 5 + 1) := by
  refine ⟨h, ?_⟩
  have htyped := (exists_uncommented_iff hd).1 ⟨line, h⟩
  obtain ⟨column, hcolumn, htext⟩ := exists_sqlColumn htyped hd
  cases h.symm.trans (definition_uncommented hd hcolumn)
  rw [htext, withComment_of_ne hoffset hdescription]
  rfl

theorem HasComment.gap_eq (h : f.HasComment d line gap) :
    gap = f.options.commentOffset - width line - 5 + 1 := by
  have htext := (hasComment_of_uncommented hd hoffset hdescription h.bare).text
  have hlength := congrArg String.length (Except.ok.inj (h.text.symm.trans htext))
  simpa [blanks] using hlength

theorem HasComment.width_eq (h : f.HasComment d line gap) :
    (width line + gap : Int) = max (width line + 1 : Int) (f.options.commentOffset - 4 : Int) := by
  rw [h.gap_eq hd hoffset hdescription]
  omega

theorem HasComment.width_of_le (h : f.HasComment d line gap)
    (hline : (width line : Int) ≤ f.options.commentOffset - 5) :
    (width (line ++ blanks gap) : Int) = f.options.commentOffset - 4 := by
  have hwidth := h.width_eq hd hoffset hdescription
  rw [width_append_blanks]
  omega

end

/-- Comments begin four columns before the offset, in one column, behind all declarations that end
before that. -/
theorem comments_aligned (hd : d.isSql = true) (hoffset : f.options.commentOffset ≠ 0)
    (hdescription : f.spec.description ≠ "") :
    ((∃ line gap, f.HasComment d line gap) ↔ f.spec.type ≠ none) ∧
    (∀ line gap, f.HasComment d line gap → 1 ≤ gap ∧
      (width line + gap : Int) = max (width line + 1 : Int) (f.options.commentOffset - 4 : Int)) ∧
    (∀ (d' : Dialect) (g : Field), d'.isSql = true → g.spec.description ≠ "" →
      g.options.commentOffset = f.options.commentOffset →
      ∀ line gap line' gap', f.HasComment d line gap → g.HasComment d' line' gap' →
        (width line : Int) ≤ f.options.commentOffset - 5 →
        (width line' : Int) ≤ f.options.commentOffset - 5 →
        width (line ++ blanks gap) = width (line' ++ blanks gap')) := by
  refine ⟨?_, ?_, ?_⟩
  · rw [← exists_uncommented_iff hd]
    constructor
    · rintro ⟨line, _, h⟩
      exact ⟨line, h.bare⟩
    · rintro ⟨line, h⟩
      exact ⟨line, _, hasComment_of_uncommented hd hoffset hdescription h⟩
  · intro line gap h
    refine ⟨?_, h.width_eq hd hoffset hdescription⟩
    rw [h.gap_eq hd hoffset hdescription]
    exact Nat.le_add_left 1 _
  · intro d' g hd' hdescription' hsame line gap line' gap' h h' hline hline'
    have hcolumn := h.width_of_le hd hoffset hdescription hline
    rw [← hsame] at hoffset hline' hcolumn
    have hcolumn' := h'.width_of_le hd' hoffset hdescription' hline'
    exact Int.ofNat.inj (hcolumn.trans hcolumn'.symm)

/-- A whole number with a description, whose comment begins in the sixteenth column if it can. -/
def described (name description : String) : Field where
  spec := { name, type := some .int, description }
  options := { commentOffset := 20 }

theorem comments_aligned_wide :
    (described "id" "key").HasComment .sql "id integer," 5 ∧
      (described "ユーザ" "who {} is").HasComment .pgEnum "ユーザ integer," 1 ∧
      width ("id integer," ++ blanks 5) = width ("ユーザ integer," ++ blanks 1) := by
  have hnarrow : (described "id" "key").HasComment .sql "id integer," 5 :=
    ⟨by decide +kernel, by decide +kernel⟩
  have hwide : (described "ユーザ" "who {} is").HasComment .pgEnum "ユーザ integer," 1 :=
    ⟨by decide +kernel, by decide +kernel⟩
  obtain ⟨-, -, haligned⟩ := comments_aligned (f := described "id" "key") (d := .sql) rfl
    (by decide) (by decide)
  exact ⟨hnarrow, hwide, haligned .pgEnum (described "ユーザ" "who {} is") rfl (by decide) rfl _ _ _ _
    hnarrow hwide (by decide +kernel) (by decide +kernel)⟩

end RelSchema.Field
