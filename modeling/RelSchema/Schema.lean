import RelSchema.Enumeration
import RelSchema.Model

namespace RelSchema

inductive SchemaError
  | missingEnum (model : String) (field : String)
  deriving DecidableEq

def SchemaError.message : SchemaError → String
  | .missingEnum model field =>
    "Enum field '" ++ model ++ "." ++ field ++ "' has no matching enum named '" ++ field ++ "'"

/-- Models with the enumerations that their fields refer to, as seen by one dialect. -/
structure Schema where
  name : String
  dialect : Dialect := .plain
  models : List Model
  enums : Keyed Enumeration
  /-- The names of the field types in use, sorted and without repetitions. -/
  types : List String := []
  options : Options := {}
  deriving BEq, Inhabited

structure Target where
  dialect : Dialect
  namespaceKind : Option NamespaceKind := none
  options : Options := {}

namespace Schema

/-- The first enumeration that a field refers to and that is not there. -/
def missingEnum? (models : List Model) (enums : Keyed Enumeration) : Option SchemaError :=
  models.findSome? fun m =>
    (m.enumFields.find? fun f => !enums.has f.spec.name).map fun f =>
      .missingEnum m.name f.spec.name

def check (s : Schema) : Except SchemaError Schema :=
  match missingEnum? s.models s.enums with
  | some e => .error e
  | none => .ok s

/-- Of two enumerations of one name, the later one counts. -/
def new (name : String) (models : List Model) (enums : List Enumeration)
    (dialect : Dialect := .plain) : Except SchemaError Schema :=
  check { name, dialect, models, enums := .ofEntries (enums.map fun e => (e.name, e)) }

def display (s : Schema) : String :=
  "<Schema '" ++ s.name ++ "'>"

def model? (s : Schema) (name : String) : Option Model :=
  s.models.find? (·.name = name)

def enumerations (s : Schema) : List Enumeration :=
  s.enums.map (·.2)

def fields (s : Schema) : List Field :=
  s.models.flatMap (·.fields)

def baseTypes (s : Schema) : List BaseType :=
  BaseType.all.filter fun t => s.fields.any (·.spec.type = some t)

/-- The schema made anew for a dialect, with its enumerations kept. -/
def specialize (s : Schema) (target : Target) : Except SchemaError Schema :=
  check { s with
    dialect := target.dialect
    models := s.models.map (·.retarget target.namespaceKind target.options)
    options := target.options }

end Schema

end RelSchema
