import RelSchema.Schema
import RelSchema.Script.Lines

namespace RelSchema.Script.Sql

/-- The inside of a quoted literal, where a quote is written twice. -/
def doubleQuotes : List Char → List Char
  | [] => []
  | c :: rest => if c = '\'' then '\'' :: '\'' :: doubleQuotes rest else c :: doubleQuotes rest

def quote (s : String) : String :=
  "'" ++ .ofList (doubleQuotes s.toList) ++ "'"

def literal : Value → String
  | .text s => quote s
  | v => v.display

/-- The cell of an inserted row, where an empty text and `n/a` stand for a missing value. -/
def cell : Value → String
  | .text s => if s.isEmpty || s = "n/a" then "null" else quote s
  | v => literal v

def tuple (m : Model) (row : Row) : String :=
  "(" ++ ", ".intercalate ((m.cleanRow row).map cell) ++ ")"

def createType (e : Enumeration) : String :=
  "\ncreate type " ++ e.name ++ " as enum (" ++
    ", ".intercalate (e.keys.map fun key => quote key.display) ++ ");\n"

def inserts (d : Dialect) (m : Model) : String :=
  if m.data.isEmpty then ""
  else
    "\ninsert into " ++ m.name ++ " (" ++ ", ".intercalate (m.fieldNames d) ++ ") values\n    " ++
      ",\n    ".intercalate (m.data.map (tuple m)) ++ ";\n"

/-- A table is dropped, created anew and filled. -/
def table (d : Dialect) (m : Model) : Except FieldError String := do
  let definitions ← m.definitions d
  return .join ((m.dependencies d).map ("\n" ++ ·)) ++
    "\ndrop table if exists " ++ m.name ++ ";\ncreate table " ++ m.name ++ " (\n" ++
    block "    " definitions ++ ");\n" ++ inserts d m

def header (s : Schema) : String :=
  "-- " ++ s.name ++ " (" ++ s.dialect.name ++ ")\n"

/-- Postgres has a type of its own for each enumeration. -/
def createTypes (s : Schema) : String :=
  if s.dialect = .pgEnum then .join (s.enumerations.map createType) else ""

def text (s : Schema) : Except FieldError String := do
  let tables ← s.models.mapM (table s.dialect)
  return header s ++ createTypes s ++ .join tables

end RelSchema.Script.Sql
