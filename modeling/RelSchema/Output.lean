import RelSchema.Document.Printer
import RelSchema.Journal
import RelSchema.Script.Abap
import RelSchema.Script.Django
import RelSchema.Script.Haskell
import RelSchema.Script.Jvm
import RelSchema.Script.Sql
import RelSchema.Script.SqlAlchemy
import RelSchema.WriteError

namespace RelSchema

structure Output where
  format : Format
  options : Options := {}
  namespaceKind : Option NamespaceKind := none

namespace Output

def target (o : Output) : Target where
  dialect := o.format.dialect
  namespaceKind := o.namespaceKind
  options := o.options

def path (o : Output) (schema : String) : String :=
  Path.join o.options.output (schema ++ "_" ++ o.format.method ++ "." ++ o.format.ending)

def script (format : Format) (s : Schema) : Except WriteError String :=
  match format with
  | .sql | .sqlite | .postgres | .pgEnum => (Script.Sql.text s).mapError .field
  | .yaml => .ok (Document.ofSchema s).toYaml
  | .haskell => (Script.Haskell.text s).mapError .field
  | .hibernate => (Script.Jvm.java s).mapError .field
  | .scala => (Script.Jvm.scala s).mapError .field
  | .sqlAlchemy => (Script.SqlAlchemy.text s).mapError .field
  | .djangoModels => Script.Django.models s
  | .djangoFactories => Script.Django.factories s
  | .abap => (Script.Abap.text s).mapError .field

/-- A document is written from the schema as it is, and anything else from the schema specialized to
the format's dialect. -/
def render (o : Output) (s : Schema) : Except WriteError String :=
  if o.format = .yaml then script .yaml s
  else do script o.format (← (s.specialize o.target).mapError .schema)

def renderNotices (o : Output) (s : Schema) : List Notice :=
  if o.format = .yaml then [] else s.specializeNotices o.target

end Output

end RelSchema
