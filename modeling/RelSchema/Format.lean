import RelSchema.Dialect
import RelSchema.Text.Blank
import RelSchema.Text.Casing

namespace RelSchema

inductive Format
  | sql | sqlite | postgres | pgEnum | yaml | haskell | hibernate | scala
  | sqlAlchemy | djangoModels | djangoFactories | abap
  deriving DecidableEq, Inhabited

namespace Format

def all : List Format :=
  [.sql, .sqlite, .postgres, .pgEnum, .yaml, .haskell, .hibernate, .scala, .sqlAlchemy,
   .djangoModels, .djangoFactories, .abap]

/-- The name that tells the format from others with the same file ending. -/
def method : Format → String
  | .sql => "sql"
  | .sqlite => "sqlite"
  | .postgres => "postgres"
  | .pgEnum => "pgenum"
  | .yaml => "yaml"
  | .haskell => "haskell"
  | .hibernate => "hibernate"
  | .scala => "scala"
  | .sqlAlchemy => "sqlalchemy"
  | .djangoModels => "djmodels"
  | .djangoFactories => "djfactories"
  | .abap => "abap"

def ending : Format → String
  | .sql | .sqlite | .postgres | .pgEnum => "sql"
  | .yaml => "yml"
  | .haskell => "hs"
  | .hibernate => "java"
  | .scala => "scala"
  | .sqlAlchemy | .djangoModels | .djangoFactories => "py"
  | .abap => "abap"

def key (f : Format) : String :=
  f.ending ++ "/" ++ f.method

/-- Finds a format by its key or its method, in any case and with blanks around it. -/
def ofName? (s : String) : Option Format :=
  let name := Text.lower (Text.trim s)
  all.find? fun f => name = f.key || name = f.method

def dialect : Format → Dialect
  | .sql => .sql
  | .sqlite => .sqlite
  | .postgres => .postgres
  | .pgEnum => .pgEnum
  | .yaml => .plain
  | .haskell => .haskell
  | .hibernate => .java
  | .scala => .scala
  | .sqlAlchemy => .sqlAlchemy
  | .djangoModels => .django
  | .djangoFactories => .factoryBoy
  | .abap => .abap

end Format

end RelSchema
