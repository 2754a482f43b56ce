import RelSchema.FieldError
import RelSchema.IndexRole
import RelSchema.Keyed
import RelSchema.Value

namespace RelSchema

structure AttributeRow where
  name : Value := .null
  type : Value := .null
  length : Value := .null
  index : Value := .null
  required : Value := .null
  default : Value := .null
  constraint : Value := .null
  category : Value := .null
  action : Value := .null
  description : Value := .null
  deriving BEq, Inhabited

namespace AttributeRow

def attributes : List String :=
  ["name", "type", "length", "index", "required", "default", "constraint", "category", "action",
   "description"]

def toList (row : AttributeRow) : List Value :=
  [row.name, row.type, row.length, row.index, row.required, row.default, row.constraint,
   row.category, row.action, row.description]

/-- The row of named cells, null where a name is absent. -/
def ofKeyed (cells : Keyed Value) : AttributeRow :=
  let cell key := (cells.get? key).getD .null
  { name := cell "name", type := cell "type", length := cell "length", index := cell "index",
    required := cell "required", default := cell "default", constraint := cell "constraint",
    category := cell "category", action := cell "action", description := cell "description" }

def ofList? : List Value → Option AttributeRow
  | [name, type, length, index, required, default, constraint, category, action, description] =>
    some { name, type, length, index, required, default, constraint, category, action, description }
  | _ => none

/-- The cells that are not null, with their names. -/
def toKeyed (row : AttributeRow) : Keyed Value :=
  (attributes.zip row.toList).filter fun cell => !cell.2.isNull

end AttributeRow

structure FieldSpec where
  name : String
  type : Option BaseType := none
  length : Option UInt32 := none
  index : IndexRole := .none
  required : Option Int64 := none
  default : Value := .null
  constraint : String := ""
  category : String := ""
  action : String := ""
  description : String := ""
  deriving BEq, Inhabited

namespace FieldSpec

/-- The action that keeps the model's name out of the field's name. -/
def noPrefix : String := "noprefix"

def actions : List String := [noPrefix]

def isKnownAction (action : String) : Bool :=
  action.isEmpty || actions.contains action

/-- The positive lengths that fit into 32 bits. -/
def lengthOfInt? (n : Int64) : Option UInt32 :=
  if 0 < n.toInt && n.toInt < UInt32.size then some (.ofNat n.toInt.toNat) else none

/-- Reads a type name with blanks around it. No name, or the name `None`, leaves the type open. -/
def readType (field cell : String) : Except FieldError (Option BaseType) :=
  let name := Text.trim cell
  if name = "" || name = "None" then .ok none
  else match BaseType.ofName? name with
    | some type => .ok (some type)
    | none => .error (.unknownType field name)

def readIndex (field cell : String) : Except FieldError IndexRole :=
  match IndexRole.ofText? cell with
  | some index => .ok index
  | none => .error (.unknownIndex field cell)

/-- Reads the attributes of a field. Cells that no length or requirement can be read from count as
empty. -/
def ofRow (row : AttributeRow) : Except FieldError FieldSpec := do
  let name := row.name.cellText
  let type ← readType name row.type.cellText
  let index ← readIndex name row.index.cellText
  return {
    name, type, index
    length := row.length.int?.bind lengthOfInt?
    required := row.required.int?
    default := row.default
    constraint := row.constraint.cellText
    category := row.category.cellText
    action := row.action.cellText
    description := row.description.cellText }

def ofKeyed (cells : Keyed Value) : Except FieldError FieldSpec :=
  ofRow (.ofKeyed cells)

/-- The cells that the attributes are read back from. -/
def toRow (spec : FieldSpec) : AttributeRow where
  name := .text spec.name
  type := (spec.type.map fun t => Value.text t.name).getD .null
  length := (spec.length.map fun n => Value.int (.ofNat n.toNat)).getD .null
  index := (spec.index.name?.map Value.text).getD .null
  required := (spec.required.map Value.int).getD .null
  default := spec.default
  constraint := .ofCellText spec.constraint
  category := .ofCellText spec.category
  action := .ofCellText spec.action
  description := .ofCellText spec.description

/-- Zero stands for no length. -/
def withLength (spec : FieldSpec) (length : UInt32) : FieldSpec :=
  { spec with length := if length = 0 then none else some length }

def withIndex (spec : FieldSpec) (index : IndexRole) : FieldSpec :=
  { spec with index }

def require (spec : FieldSpec) : FieldSpec :=
  { spec with required := some 1 }

def withDefault (spec : FieldSpec) (default : Value) : FieldSpec :=
  { spec with default }

def withConstraint (spec : FieldSpec) (constraint : String) : FieldSpec :=
  { spec with constraint }

def withCategory (spec : FieldSpec) (category : String) : FieldSpec :=
  { spec with category }

def withAction (spec : FieldSpec) (action : String) : FieldSpec :=
  { spec with action }

def withDescription (spec : FieldSpec) (description : String) : FieldSpec :=
  { spec with description }

end FieldSpec

end RelSchema
