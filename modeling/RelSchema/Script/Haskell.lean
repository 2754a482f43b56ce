import RelSchema.Schema
import RelSchema.Script.Lines

namespace RelSchema.Script.Haskell

def constructor (key : Value) : String :=
  Text.pascalCase key.display

def enumeration (e : Enumeration) : String :=
  "\ndata " ++ e.className ++ " = " ++ " | ".intercalate (e.keys.map constructor) ++
    " deriving (Show, Eq, Generic)\n"

/-- The fields of a record, each led by the sign that opens or continues it. -/
def recordLines : List String → List String
  | [] => []
  | first :: rest => ("\x7b " ++ first) :: rest.map (", " ++ ·)

def record (m : Model) : Except FieldError String := do
  let definitions ← m.fieldDefinitions .haskell
  return "\ndata " ++ m.className ++ " = " ++ m.className ++ "\n" ++
    block "    " (recordLines definitions) ++ "    \x7d deriving (Show, Generic)\n"

def header (s : Schema) : String :=
  "-- " ++ s.name ++ " records\n\x7b-# LANGUAGE DeriveGeneric #-\x7d\nmodule " ++
    Text.pascalCase s.name ++ " where\n\nimport Data.Time\nimport GHC.Generics\n"

def text (s : Schema) : Except FieldError String := do
  let records ← s.models.mapM record
  return header s ++ .join (s.enumerations.map enumeration) ++ .join records

end RelSchema.Script.Haskell
