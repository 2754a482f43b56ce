import RelSchema.FileError
import RelSchema.Junction
import RelSchema.Schema

namespace RelSchema

/-- A row lists its cells in the order of the fields, or names the field of each. -/
inductive DocumentRow
  | list (cells : List Value)
  | map (cells : Keyed Value)
  deriving DecidableEq

structure DocumentModel where
  name : String
  properties : Keyed String := []
  fields : List (Keyed Value)
  data : List DocumentRow := []
  deriving DecidableEq

structure Document where
  name : Option String := none
  enums : List Enumeration := []
  models : List DocumentModel := []
  deriving DecidableEq

inductive RowFault
  | wrongLength (expected found : Nat)
  | missingValue (field : String)
  deriving DecidableEq

def RowFault.message : RowFault → String
  | .wrongLength expected found =>
    "expected " ++ toString expected ++ " cells, found " ++ toString found
  | .missingValue field => "missing value for '" ++ field ++ "'"

inductive ReadError
  | file (error : FileError)
  | malformed
  | field (model : String) (error : FieldError)
  | schema (error : SchemaError)
  | row (model : String) (index : Nat) (fault : RowFault)
  deriving DecidableEq

/-- The wording of a malformed document's fault is left open. -/
def ReadError.message : ReadError → String
  | .file error => "Failed to read schema: " ++ error.message
  | .malformed => "Invalid YAML: "
  | .field model error => "In model '" ++ model ++ "': " ++ error.message
  | .schema error => error.message
  | .row model index fault =>
    "Model '" ++ model ++ "' row " ++ toString index ++ ": " ++ fault.message

namespace DocumentRow

/-- Takes the value of each name out of a map, so that no value is taken twice. -/
def pick : List String → Keyed Value → Except RowFault Row
  | [], _ => .ok []
  | name :: rest, cells =>
    match cells.get? name with
    | none => .error (.missingValue name)
    | some value => (pick rest (cells.erase name)).map (value :: ·)

/-- The cells of a row in the order of the fields. -/
def order (names : List String) : DocumentRow → Except RowFault Row
  | .list cells =>
    if cells.length = names.length then .ok cells
    else .error (.wrongLength names.length cells.length)
  | .map cells => pick names cells

end DocumentRow

namespace DocumentModel

/-- The rows from the `index`-th on, each in the order of the fields. -/
def orderRows (model : String) (names : List String) (index : Nat) :
    List DocumentRow → Except ReadError (List Row)
  | [] => .ok []
  | row :: rest => do
    let cells ← (row.order names).mapError (.row model index)
    return cells :: (← orderRows model names (index + 1) rest)

def specs (m : DocumentModel) : Except ReadError (List FieldSpec) :=
  (m.fields.mapM FieldSpec.ofKeyed).mapError (.field m.name)

/-- The model of a document, whose junction candidates are `junctions`. -/
def toModel (options : Options) (junctions : List String) (m : DocumentModel) :
    Except ReadError Model := do
  let specs ← m.specs
  let data ← orderRows m.name (specs.map (·.name)) 0 m.data
  let info : ModelInfo := {
    name := m.name
    properties := m.properties
    isCandidate := junctions.contains m.name
    options }
  return .ofParts info (specs.map fun spec => { spec, options }) data none

def toTypedModel (options : Options) (junctions : List String) (m : DocumentModel) :
    Except ReadError Model := do
  let model ← m.toModel options junctions
  let _ ← (model.types .plain).mapError (.field m.name)
  return model

end DocumentModel

/-- A name put into a sorted list, unless it is there. -/
def insertSorted (name : String) : List String → List String
  | [] => [name]
  | n :: rest =>
    if name = n then n :: rest
    else if name < n then name :: n :: rest
    else n :: insertSorted name rest

def sortedNames (names : List String) : List String :=
  names.foldr insertSorted []

def Model.plainTypes (m : Model) : List String :=
  m.fields.filterMap fun f => (f.typeName .plain).toOption

namespace Document

def junctions (doc : Document) : List String :=
  Junction.candidates (doc.models.map (·.name))

def toModels (doc : Document) (options : Options) : Except ReadError (List Model) :=
  doc.models.mapM (·.toTypedModel options doc.junctions)

/-- The schema that a document describes, under `defaultName` if the document has no name. -/
def toSchema (doc : Document) (options : Options) (defaultName : String) :
    Except ReadError Schema := do
  let models ← doc.toModels options
  let schema ← (Schema.new (doc.name.getD defaultName) models doc.enums).mapError .schema
  return { schema with types := sortedNames (models.flatMap (·.plainTypes)), options }

def ofSchema (s : Schema) : Document where
  name := some s.name
  enums := s.enumerations
  models := s.models.map fun m => {
    name := m.name
    properties := m.info.properties
    fields := m.fields.map (·.spec.toRow.toKeyed)
    data := m.data.map .list }

end Document

end RelSchema
