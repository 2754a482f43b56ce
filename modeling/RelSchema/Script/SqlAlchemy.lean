import RelSchema.Document
import RelSchema.Script.Lines

namespace RelSchema.Script.SqlAlchemy

/-- The first field whose type has no name. -/
def untypedField? (s : Schema) : Option FieldError :=
  s.fields.findSome? fun f =>
    match f.typeName .sqlAlchemy with
    | .error e => some e
    | .ok _ => none

def imports (s : Schema) : Except FieldError (List String) :=
  match s.baseTypes.mapM (Dialect.typeName? .sqlAlchemy) with
  | some names =>
    let keys := if s.models.any (·.hasFk) then ["Column", "ForeignKey"] else ["Column"]
    .ok (sortedNames (names ++ keys))
  | none => .error ((untypedField? s).getD (.notImplemented .sqlAlchemy .imports))

def header (s : Schema) (imports : List String) : String :=
  "\"\"\"" ++ s.name ++ " models.\"\"\"\nfrom sqlalchemy import " ++ ", ".intercalate imports ++
    "\nfrom sqlalchemy.orm import declarative_base, relationship\n\nBase = declarative_base()\n"

def classText (m : Model) : Except FieldError String := do
  let columns ← m.fieldDefinitions .sqlAlchemy
  return "\n\nclass " ++ m.className ++ "(Base):\n    __tablename__ = \"" ++ m.name ++ "\"\n\n" ++
    block "    " columns

def literal : Value → String
  | .null => "None"
  | .bool b => Python.boolName b
  | v => v.display

def seedLine (m : Model) (row : Row) : String :=
  let cells := m.namedRow .sqlAlchemy (m.cleanRow row) true
  "    session.add(" ++ m.className ++ "(" ++
    Python.arguments (cells.map fun (name, value) => name ++ "=" ++ literal value) ++ "))\n"

def seeds (s : Schema) : String :=
  if s.models.all (·.data.isEmpty) then ""
  else "\n\ndef seed(session):\n" ++ .join (s.models.flatMap fun m => m.data.map (seedLine m))

def text (s : Schema) : Except FieldError String := do
  let imports ← imports s
  let classes ← s.models.mapM classText
  return header s imports ++ .join classes ++ seeds s

end RelSchema.Script.SqlAlchemy
