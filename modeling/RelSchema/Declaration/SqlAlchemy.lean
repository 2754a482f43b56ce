import RelSchema.Declaration.Python

namespace RelSchema.Field

def nullableArgument (f : Field) : String :=
  "nullable=" ++ Python.boolName (!f.isDemanded)

/-- A reference to the key of a table, with the cascades that the constraint asks for. -/
def foreignKeyArgument (f : Field) (table : String) : String :=
  "ForeignKey(" ++ Python.arguments ([Python.quote (table ++ ".id")] ++
    (if Text.contains f.spec.constraint "on delete cascade" then ["ondelete='CASCADE'"] else []) ++
    (if Text.contains f.spec.constraint "on update cascade" then ["onupdate='CASCADE'"] else [])) ++
    ")"

/-- The attribute that holds the row a key refers to. -/
def relationship (f : Field) (table : String) : String :=
  "    " ++ table ++ " = relationship(" ++ Python.quote (Text.pascalCase table) ++ ", backref=" ++
    Python.quote (Text.plural f.modelName) ++ ")"

def plainColumnArguments (f : Field) : List String :=
  [f.nullableArgument] ++
    (match f.defaultClause? .sqlAlchemy with
      | some default => ["default=" ++ Python.quote default]
      | none => []) ++
    (if f.spec.description.isEmpty then [] else ["doc=" ++ Python.quote f.spec.description])

def sqlAlchemyArguments (f : Field) (table : String) : List String :=
  if f.isPk then ["nullable=False", "primary_key=True"]
  else if f.isFk then [f.foreignKeyArgument table, f.nullableArgument]
  else if f.isPfk then [f.foreignKeyArgument table, "nullable=False", "primary_key=True"]
  else f.plainColumnArguments

/-- The type of a column. A length wins over the enumeration of a field that is no key. -/
def sqlAlchemyType (f : Field) : Except FieldError String := do
  let type ← f.baseType
  let name ← f.physicalType .sqlAlchemy type
  return match type, f.spec.length with
    | .str, some n => "String(" ++ toString n.toNat ++ ")"
    | _, _ => if f.isEnum && !f.isKey then Text.upper (f.name .sqlAlchemy) else name

def sqlAlchemyDefinition (f : Field) : Except FieldError String := do
  let name := f.name .sqlAlchemy
  let type ← f.sqlAlchemyType
  let table := Text.stripId name
  let column :=
    name ++ " = Column(" ++ type ++ ", " ++ Python.arguments (f.sqlAlchemyArguments table) ++ ")"
  return if f.isFk || f.isPfk then column ++ "\n" ++ f.relationship table else column

end RelSchema.Field
