import RelSchema.Field

namespace RelSchema.Field

/-- The type of a member, which does not depend on the length of a text. -/
def memberType (d : Dialect) (f : Field) : Except FieldError String := do
  f.physicalType d (← f.baseType)

def bodyLines (lines : List String) : String :=
  "\n    ".intercalate lines

def generatedKey : List String :=
  ["@Id", "@GeneratedValue(strategy = GenerationType.IDENTITY)"]

def joinedColumn (column : String) : List String :=
  ["@ManyToOne(cascade = CascadeType.ALL)", "@JoinColumn(name = \"" ++ column ++ "\")"]

def javaDefinition (f : Field) : Except FieldError String := do
  let column := f.name .java
  let type ← f.memberType .java
  let annotations :=
    if f.isPk then generatedKey
    else if f.isFk then joinedColumn column
    else ["@Column(name=\"" ++ column ++ "\")"]
  let member := "private " ++ type ++ " " ++ Text.camelCase column ++ ";"
  return bodyLines (annotations ++ [member, "\n"])

def scalaDefinition (f : Field) : Except FieldError String := do
  let column := f.name .scala
  let type ← f.memberType .scala
  let member := Text.camelCase column
  let lines :=
    if f.isPk then generatedKey ++ ["@BeanProperty", "var " ++ column ++ ": " ++ type ++ " = _"]
    else
      (if f.isFk then joinedColumn column else ["@BeanProperty"]) ++
        ["var " ++ member ++ ": " ++ type ++ " = " ++ column]
  return bodyLines (lines ++ ["\n"])

def accessors (d : Dialect) (f : Field) : Except FieldError String := do
  let column := f.name d
  let member := Text.camelCase column
  let property := Text.pascalCase column
  let type ← f.typeName d
  return bodyLines [
    "public " ++ type ++ " get" ++ property ++ "() \x7b",
    "    return this." ++ member ++ ";",
    "\x7d",
    "\n",
    "public void set" ++ property ++ "(" ++ type ++ " " ++ column ++ ") \x7b",
    "    this." ++ member ++ " = " ++ column ++ ";",
    "\x7d",
    "\n"]

end RelSchema.Field
