import RelSchema.FieldSpec
import RelSchema.Options
import RelSchema.Text.Naming

namespace RelSchema

/-- What the fields and the namespace of a model know about it. -/
structure ModelInfo where
  name : String
  properties : Keyed String := []
  /-- The name joins the names of two models, as the name of a junction table does. -/
  isCandidate : Bool := false
  options : Options := {}
  deriving BEq, Inhabited

/-- The two properties that namespaces are made from are there. -/
def ModelInfo.hasNamespaceProperties (info : ModelInfo) : Bool :=
  info.properties.has "model" && info.properties.has "app"

/-- Attributes together with the model they belong to and their place in it. -/
structure Field where
  spec : FieldSpec
  /-- The model the field belongs to, if it belongs to one. -/
  owner : Option ModelInfo := none
  /-- No field or key line comes after this field in its model. -/
  isLast : Bool := false
  options : Options := {}
  deriving Inhabited

namespace Field

def modelName (f : Field) : String :=
  (f.owner.map (·.name)).getD "model"

/-- Of the model, only its name counts. -/
instance : BEq Field where
  beq f g :=
    f.spec == g.spec && f.isLast == g.isLast && f.options == g.options && f.modelName == g.modelName

def qualifiedName (f : Field) : String :=
  f.modelName ++ "." ++ f.spec.name

def display (f : Field) : String :=
  "<Field '" ++ f.qualifiedName ++ "' (" ++ (f.spec.type.map BaseType.name).getD "None" ++ ")>"

/-- The field without its model, as it is left when the model is gone. -/
def detach (f : Field) : Field :=
  { f with owner := none }

def withOptions (f : Field) (options : Options) : Field :=
  { f with options }

def isPk (f : Field) : Bool := f.spec.index = .pk

def isFk (f : Field) : Bool := f.spec.index = .fk

def isPfk (f : Field) : Bool := f.spec.index = .pfk

def isSk (f : Field) : Bool := f.spec.index = .sk

def isKey (f : Field) : Bool := f.isPk || f.isFk || f.isPfk

/-- The field refers to another row of its own model. -/
def isSelfReference (f : Field) : Bool :=
  f.isFk && f.spec.name = "parent_id"

/-- The values of the field are those of the enumeration that bears its name. -/
def isEnum (f : Field) : Bool :=
  Text.startsWith f.spec.constraint "enum"

def isRequired (f : Field) : Bool :=
  f.spec.required = some 1

/-- A requirement is given, whatever number it is, and is not zero. -/
def isDemanded (f : Field) : Bool :=
  f.spec.required.any (· ≠ 0)

def isNumber (f : Field) : Bool :=
  f.spec.type.any BaseType.isNumber

def baseType (f : Field) : Except FieldError BaseType :=
  match f.spec.type with
  | some type => .ok type
  | none => .error (.missingType f.qualifiedName)

def physicalType (d : Dialect) (f : Field) (type : BaseType) : Except FieldError String :=
  match d.typeName? type with
  | some name => .ok name
  | none => .error (.unmapped f.qualifiedName type d)

/-- The type of the field's column, with its length. -/
def columnType (d : Dialect) (f : Field) : Except FieldError String := do
  let type ← f.baseType
  match d.columnType? type f.spec.length with
  | some name => .ok name
  | none => .error (.unmapped f.qualifiedName type d)

/-- The field's name as the dialect writes it. Record fields of Haskell share one name space, so
they begin with the name of their model. -/
def name (d : Dialect) (f : Field) : String :=
  match d with
  | .haskell =>
    if f.spec.action = FieldSpec.noPrefix then Text.camelCase f.spec.name
    else Text.camelCase (f.modelName ++ "_" ++ f.spec.name)
  | _ => f.spec.name

/-- The type a declaration gives to the field. Postgres has a type of its own for each
enumeration. -/
def typeName (d : Dialect) (f : Field) : Except FieldError String := do
  let type ← f.columnType d
  return if d = .pgEnum && f.isEnum then f.name d else type

/-- What separates the field's declaration from the next one. -/
def separator (d : Dialect) (f : Field) : String :=
  if f.isLast then (if d = .abap then "." else "") else ","

/-- What a required field is marked with; for Haskell it marks the others. -/
def requiredQualifier? (d : Dialect) : Option String :=
  match d with
  | .sql | .sqlite | .postgres | .pgEnum | .abap => some "not null"
  | .haskell => some "Maybe"
  | _ => none

/-- A text between single quotes, as it stands; any other value as its text. -/
def defaultLiteral : Value → String
  | .text s => "'" ++ s ++ "'"
  | v => v.display

def isZero : Value → Bool
  | .int n => n = 0
  | .float x => x.isZero
  | _ => false

/-- The part of a declaration that gives the default. Zero is a default in SQL only. -/
def defaultClause? (d : Dialect) (f : Field) : Option String :=
  let value := f.spec.default
  match d with
  | .sql | .sqlite | .postgres | .pgEnum =>
    if isZero value || value.isTruthy then some ("default " ++ defaultLiteral value) else none
  | .abap => if value.isTruthy then some ("VALUE " ++ defaultLiteral value) else none
  | _ => if value.isTruthy then some value.display else none

end Field

end RelSchema
