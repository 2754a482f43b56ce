import RelSchema.Declaration
import RelSchema.Proofs.Fault

namespace RelSchema.Field

variable {f : Field}

theorem abapDefinition_eq :
    f.abapDefinition = f.abapComponent.map fun component =>
      Text.padRight component 30 ++ " " ++ ("\"" ++ " " ++ f.spec.description) := by
  rw [abapDefinition]
  cases f.abapComponent with
  | error => rfl
  | ok component =>
    refine congrArg Except.ok ?_
    simp only [String.append_assoc]
    rfl

end RelSchema.Field
