import RelSchema.FileError
import RelSchema.Namespace
import RelSchema.Schema

namespace RelSchema

inductive WriteError
  | unknownFormat (name : String)
  | field (error : FieldError)
  | schema (error : SchemaError)
  | package (error : NamespaceError)
  | file (error : FileError)
  deriving DecidableEq

def WriteError.message : WriteError → String
  | .unknownFormat name => "Unknown writer '" ++ name ++ "'"
  | .field error => error.message
  | .schema error => error.message
  | .package error => error.message
  | .file error => "Failed to write output: " ++ error.message

end RelSchema
