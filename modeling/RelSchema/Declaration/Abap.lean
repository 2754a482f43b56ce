import RelSchema.Field
import RelSchema.Text.Width

namespace RelSchema.Field

def abapComponent (f : Field) : Except FieldError String := do
  let type ← f.typeName .abap
  let default := match f.defaultClause? .abap with
    | some clause => " " ++ clause
    | none => ""
  return Text.padRight (f.name .abap) 10 ++ " " ++ type ++ default ++ f.separator .abap

/-- A double quote begins the comment, and stands there even if the description is empty. -/
def abapDefinition (f : Field) : Except FieldError String := do
  let component ← f.abapComponent
  return Text.padRight component 30 ++ " \" " ++ f.spec.description

end RelSchema.Field
