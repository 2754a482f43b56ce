import RelSchema.Dialect

namespace RelSchema

/-- The parts of the output that a dialect may lack. -/
inductive Aspect
  | definition | method | imports
  deriving DecidableEq

def Aspect.name : Aspect → String
  | .definition => "definition"
  | .method => "method"
  | .imports => "imports"

inductive FieldError
  | missingType (field : String)
  | unknownType (field : String) (type : String)
  | unknownIndex (field : String) (index : String)
  | unmapped (field : String) (type : BaseType) (dialect : Dialect)
  | notImplemented (dialect : Dialect) (aspect : Aspect)
  deriving DecidableEq

def FieldError.message : FieldError → String
  | .missingType field => "Field type is not specified: " ++ field
  | .unknownType field type => "Unknown field type '" ++ type ++ "': " ++ field
  | .unknownIndex field index => "Unknown index '" ++ index ++ "': " ++ field
  | .unmapped field type dialect =>
    "Field type '" ++ type.name ++ "' has no " ++ dialect.name ++ " mapping: " ++ field
  | .notImplemented dialect aspect => dialect.name ++ " fields must implement " ++ aspect.name

end RelSchema
