import RelSchema.Declaration.Abap
import RelSchema.Declaration.Django
import RelSchema.Declaration.Factory
import RelSchema.Declaration.Haskell
import RelSchema.Declaration.Jvm
import RelSchema.Declaration.Sql
import RelSchema.Declaration.SqlAlchemy

namespace RelSchema.Field

def definition (d : Dialect) (f : Field) : Except FieldError String :=
  match d with
  | .plain => .error (.notImplemented .plain .definition)
  | .sql | .sqlite | .postgres | .pgEnum => f.sqlDefinition d
  | .abap => f.abapDefinition
  | .haskell => f.haskellDefinition
  | .java => f.javaDefinition
  | .scala => f.scalaDefinition
  | .sqlAlchemy => f.sqlAlchemyDefinition
  | .django => f.djangoDefinition
  | .factoryBoy => f.factoryDefinition

def method (d : Dialect) (f : Field) : Except FieldError String :=
  match d with
  | .java | .scala => f.accessors d
  | _ => .error (.notImplemented d .method)

end RelSchema.Field
