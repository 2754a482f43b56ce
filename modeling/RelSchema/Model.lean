import RelSchema.Declaration
import RelSchema.Distinct

namespace RelSchema

inductive NamespaceKind
  | package | djangoApp
  deriving DecidableEq

abbrev Row := List Value

structure Model where
  info : ModelInfo
  fields : List Field
  data : List Row := []
  namespaceKind : Option NamespaceKind := none
  deriving BEq, Inhabited

namespace Model

/-- Gives every field its model. The last field ends the list unless a key line follows it. -/
def linkFields (info : ModelInfo) (keyLine : Bool) : List Field → List Field
  | [] => []
  | [f] => [{ f with owner := some info, isLast := !keyLine }]
  | f :: rest => { f with owner := some info, isLast := false } :: linkFields info keyLine rest

def hasRole (fields : List Field) (role : IndexRole) : Bool :=
  fields.any (·.spec.index = role)

/-- A candidate is a junction table if it has a field that is both a foreign and a primary key. -/
def isJunctionOf (info : ModelInfo) (fields : List Field) : Bool :=
  info.isCandidate && hasRole fields .pfk

/-- Puts a model together, whatever its fields belonged to before. -/
def ofParts (info : ModelInfo) (fields : List Field) (data : List Row)
    (namespaceKind : Option NamespaceKind) : Model where
  info
  fields := linkFields info (isJunctionOf info fields) fields
  data
  namespaceKind

def retarget (m : Model) (namespaceKind : Option NamespaceKind) (options : Options) : Model :=
  ofParts { m.info with options } (m.fields.map (·.withOptions options)) m.data namespaceKind

def name (m : Model) : String :=
  m.info.name

def display (m : Model) : String :=
  "<Model '" ++ m.name ++ "'>"

def className (m : Model) : String :=
  Text.pascalCase m.name

def isJunction (m : Model) : Bool :=
  isJunctionOf m.info m.fields

def fieldsOf (m : Model) (role : IndexRole) : List Field :=
  m.fields.filter (·.spec.index = role)

def pkFields (m : Model) : List Field := m.fieldsOf .pk

def fkFields (m : Model) : List Field := m.fieldsOf .fk

def pfkFields (m : Model) : List Field := m.fieldsOf .pfk

def skFields (m : Model) : List Field := m.fieldsOf .sk

def pkField? (m : Model) : Option Field := m.fields.find? (·.isPk)

def skField? (m : Model) : Option Field := m.fields.find? (·.isSk)

def hasPk (m : Model) : Bool := hasRole m.fields .pk

def hasFk (m : Model) : Bool := hasRole m.fields .fk

def hasPfk (m : Model) : Bool := hasRole m.fields .pfk

def hasSk (m : Model) : Bool := hasRole m.fields .sk

def hasCompositeKey (m : Model) : Bool := m.pkFields.length > 1

/-- Typed fields other than primary keys. -/
def mappedFields (m : Model) : List Field :=
  m.fields.filter fun f => f.spec.type.isSome && !f.isPk

def requiredFields (m : Model) : List Field := m.fields.filter (·.isDemanded)

def enumFields (m : Model) : List Field := m.fields.filter (·.isEnum)

def numberFields (m : Model) : List Field := m.fields.filter (·.isNumber)

def categoryFields (m : Model) : List Field := m.fields.filter (!·.spec.category.isEmpty)

def noncategoryFields (m : Model) : List Field := m.fields.filter (·.spec.category.isEmpty)

def categories (m : Model) : List String :=
  distinct (m.categoryFields.map (·.spec.category))

def fieldsForCategory (m : Model) (category : String) : List Field :=
  m.fields.filter (·.spec.category == category)

def hasDefaults (m : Model) : Bool := m.fields.any (·.spec.default.isTruthy)

def hasActions (m : Model) : Bool := m.fields.any (!·.spec.action.isEmpty)

def isHierarchical (m : Model) : Bool := m.fields.any (·.isSelfReference)

def hasNamespaceProperties (m : Model) : Bool := m.info.hasNamespaceProperties

def fieldNames (d : Dialect) (m : Model) : List String :=
  m.fields.map (·.name d)

/-- The field names, with foreign keys named for what they refer to. -/
def referenceNames (d : Dialect) (m : Model) : List String :=
  m.fields.map fun f => if f.isFk then Text.stripId (f.name d) else f.name d

/-- The names of fields without a category, as a form for editing lists them. -/
def adminFieldNames (d : Dialect) (m : Model) : List String :=
  ((m.noncategoryFields.map (·.name d)).filter (· ≠ "id")).map Text.stripId

/-- The line that makes several fields one primary key. -/
def compositeKeyLine (d : Dialect) (m : Model) : String :=
  "primary key(" ++ ", ".intercalate (m.pfkFields.map (·.name d)) ++ ")"

def fieldDefinitions (d : Dialect) (m : Model) : Except FieldError (List String) :=
  m.fields.mapM (·.definition d)

/-- The definitions of the fields, and the key line of a junction table. -/
def definitions (d : Dialect) (m : Model) : Except FieldError (List String) := do
  let lines ← m.fieldDefinitions d
  return if m.isJunction then lines ++ [m.compositeKeyLine d] else lines

def methods (d : Dialect) (m : Model) : Except FieldError (List String) :=
  m.fields.mapM (·.method d)

def types (d : Dialect) (m : Model) : Except FieldError (List String) :=
  m.fields.mapM (·.typeName d)

/-- A line for each table that a foreign key needs, named as the key without its last three
characters. -/
def dependencies (d : Dialect) (m : Model) : List String :=
  m.fkFields.map fun f =>
    let name := (f.name d).toList
    "--REQ tables/" ++ .ofList (name.take (name.length - 3))

/-- Brings a cell into the form that its field's type is written in. -/
def cleanCell (type : Option BaseType) (value : Value) : Value :=
  match type with
  | some .date =>
    if value.isNull then .null else .text (Text.replace value.display " 00:00:00" "")
  | some .time | some .interval => if value.isNull then .null else .text value.display
  | some .bool => .bool value.isTruthy
  | _ => value

def cleanRow (m : Model) (row : Row) : Row :=
  List.zipWith (fun f value => cleanCell f.spec.type value) m.fields row

/-- The cells of a row with the names of their fields, texts quoted if asked for. -/
def namedRow (d : Dialect) (m : Model) (row : Row) (quote : Bool) : List (String × Value) :=
  (m.fieldNames d).zip (if quote then row.map Value.quoted else row)

def assignments (d : Dialect) (m : Model) (row : Row) (sign : String) (quote : Bool) : String :=
  ", ".intercalate ((m.namedRow d row quote).map fun (name, value) => name ++ sign ++ value.display)

def repeated (symbol : String) (n : Nat) : String :=
  .join (List.replicate n symbol)

/-- The underline of a heading that holds the model's name and perhaps a word after it. -/
def underline (m : Model) (symbol : String) (after : Option String) : String :=
  match after with
  | some s => repeated symbol (m.name.length + 1 + s.length)
  | none => repeated symbol m.name.length

end Model

end RelSchema
