import RelSchema.Schema
import RelSchema.Script.Lines

namespace RelSchema.Script.Abap

def structureText (m : Model) : Except FieldError String := do
  let components ← m.fieldDefinitions .abap
  return "\nTYPES: BEGIN OF ty_" ++ m.name ++ ",\n" ++ block "  " components ++
    "TYPES: END OF ty_" ++ m.name ++ ".\n"

def text (s : Schema) : Except FieldError String := do
  let structures ← s.models.mapM structureText
  return "* " ++ s.name ++ " structures\n" ++ .join structures

end RelSchema.Script.Abap
