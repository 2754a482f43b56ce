import RelSchema.Dialect
import RelSchema.Format

namespace RelSchema

inductive Level
  | debug | info | warning | error
  deriving DecidableEq

def Level.name : Level → String
  | .debug => "DEBUG"
  | .info => "INFO"
  | .warning => "WARN"
  | .error => "ERROR"

def Level.isPublic : Level → Bool
  | .debug => false
  | _ => true

inductive Notice
  | readsFile (path : String)
  | foundJunction (name left right : String)
  | readsModel (name : String)
  | unknownAction (field action : String)
  | missingEnum (model field : String)
  | specializes (schema : String) (dialect : Dialect)
  | wroteFile (format : Format) (path : String)
  deriving DecidableEq

namespace Notice

def level : Notice → Level
  | .readsFile _ | .foundJunction _ _ _ | .readsModel _ | .specializes _ _ => .debug
  | .unknownAction _ _ => .warning
  | .missingEnum _ _ => .error
  | .wroteFile _ _ => .info

def message : Notice → String
  | .readsFile path => "processing " ++ path
  | .foundJunction name left right =>
    name ++ " is a many-to-many table of " ++ left ++ " and " ++ right
  | .readsModel name => "processing model: " ++ name
  | .unknownAction field action => field ++ ": ignoring unknown action '" ++ action ++ "'"
  | .missingEnum model field =>
    model ++ "." ++ field ++ ": enum field has no matching enum '" ++ field ++ "'"
  | .specializes schema dialect => "specializing schema '" ++ schema ++ "' as " ++ dialect.name
  | .wroteFile format path => format.key ++ " written to " ++ path

end Notice

end RelSchema
