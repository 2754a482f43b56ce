import RelSchema.Declaration.Constraint
import RelSchema.Field
import RelSchema.Text.Width

namespace RelSchema

/-- What a column is declared to be after its type. -/
inductive ColumnRole
  | primaryKey
  | reference (table : String)
  | default (clause : String)
  | plain
  deriving DecidableEq

def ColumnRole.words : ColumnRole → List String
  | .primaryKey => ["primary key"]
  | .reference table => ["references", table, "(id)"]
  | .default clause => [clause]
  | .plain => []

structure SqlColumn where
  name : String
  type : String
  role : ColumnRole
  constraint : Option String
  isRequired : Bool
  separator : String

def SqlColumn.text (column : SqlColumn) : String :=
  " ".intercalate ([column.name, column.type] ++ column.role.words ++ column.constraint.toList ++
    (if column.isRequired then ["not null"] else [])) ++ column.separator

namespace Field

/-- The table a foreign key refers to: the model itself or the one that the key is named for. -/
def referencedTable (f : Field) : String :=
  if f.isSelfReference then f.modelName else Text.stripId f.spec.name

/-- A key has no default. -/
def sqlRole (d : Dialect) (f : Field) : ColumnRole :=
  if f.isPk then .primaryKey
  else if f.isFk || f.isPfk then .reference f.referencedTable
  else match f.defaultClause? d with
    | some clause => .default clause
    | none => .plain

def sqlColumn (d : Dialect) (f : Field) : Except FieldError SqlColumn := do
  let type ← f.typeName d
  return {
    name := f.name d
    type
    role := f.sqlRole d
    constraint := if Constraint.isInline f.spec.constraint then some f.spec.constraint else none
    isRequired := f.isRequired
    separator := f.separator d }

end Field

/-- The line with its comment behind it, which is set to the right of the offset before the
description is put into it. -/
def withComment (line : String) (offset : Nat) (description : String) : String :=
  if offset = 0 || description.isEmpty then line
  else
    let comment := Text.padLeft "-- \x7b\x7d" (offset - Text.width line)
    line ++ " " ++ Text.replace comment "\x7b\x7d" description

def Field.sqlDefinition (d : Dialect) (f : Field) : Except FieldError String := do
  let column ← f.sqlColumn d
  return withComment column.text f.options.commentOffset f.spec.description

end RelSchema
