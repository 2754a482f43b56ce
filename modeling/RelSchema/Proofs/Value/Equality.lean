import RelSchema.Value

namespace RelSchema

namespace Binary64

variable {x y : Binary64}

theorem beq_iff : (x == y) = true ↔
    x.isNaN = false ∧ y.isNaN = false ∧ (x = y ∨ x.isZero = true ∧ y.isZero = true) := by
  have hbits : x.bits = y.bits ↔ x = y := ⟨fun h => congrArg mk h, fun h => congrArg bits h⟩
  change (!x.isNaN && !y.isNaN && (decide (x.bits = y.bits) || (x.isZero && y.isZero))) = true ↔ _
  rw [Bool.and_eq_true, Bool.and_eq_true, Bool.or_eq_true, Bool.and_eq_true, decide_eq_true_iff,
    hbits, Bool.not_eq_true', Bool.not_eq_true', and_assoc]

instance : PartialEquivBEq Binary64 where
  symm h := by
    obtain ⟨hx, hy, heq⟩ := beq_iff.1 h
    exact beq_iff.2 ⟨hy, hx, heq.imp Eq.symm And.symm⟩
  trans hxy hyz := by
    obtain ⟨hx, -, hxy⟩ := beq_iff.1 hxy
    obtain ⟨-, hz, hyz⟩ := beq_iff.1 hyz
    apply beq_iff.2
    refine ⟨hx, hz, ?_⟩
    rcases hxy with rfl | ⟨hx, hy⟩
    · exact hyz
    · rcases hyz with rfl | ⟨-, hz⟩
      · exact .inr ⟨hx, hy⟩
      · exact .inr ⟨hx, hz⟩

end Binary64

namespace Value

/-- Equal values are the same, unless they are floats that are equal as numbers. -/
theorem eq_or_floats_of_beq {v w : Value} (h : (v == w) = true) :
    v = w ∨ ∃ x y, v = .float x ∧ w = .float y ∧ (x == y) = true := by
  cases v with
  | null =>
    cases w with
    | null => exact .inl rfl
    | _ => cases h
  | bool a =>
    cases w with
    | bool b => exact .inl (congrArg bool (eq_of_beq h))
    | _ => cases h
  | int a =>
    cases w with
    | int b => exact .inl (congrArg int (eq_of_beq h))
    | _ => cases h
  | float x =>
    cases w with
    | float y => exact .inr ⟨x, y, rfl, rfl, h⟩
    | _ => cases h
  | text a =>
    cases w with
    | text b => exact .inl (congrArg text (eq_of_beq h))
    | _ => cases h

instance : PartialEquivBEq Value where
  symm h := by
    rcases eq_or_floats_of_beq h with rfl | ⟨x, y, rfl, rfl, hxy⟩
    · exact h
    · exact BEq.symm (α := Binary64) hxy
  trans h h' := by
    rcases eq_or_floats_of_beq h with rfl | ⟨x, y, rfl, rfl, hxy⟩
    · exact h'
    · rcases eq_or_floats_of_beq h' with rfl | ⟨y, z, hy, rfl, hyz⟩
      · exact h
      · cases hy
        exact BEq.trans (α := Binary64) hxy hyz

end Value

end RelSchema
