import RelSchema.BaseType

namespace RelSchema

/-- A dialect decides how a field is named, typed and declared. The plain one declares nothing. -/
inductive Dialect
  | plain | sql | sqlite | postgres | pgEnum | abap | haskell | java | scala
  | sqlAlchemy | django | factoryBoy
  deriving DecidableEq, Inhabited

namespace Dialect

def all : List Dialect :=
  [.plain, .sql, .sqlite, .postgres, .pgEnum, .abap, .haskell, .java, .scala, .sqlAlchemy, .django,
   .factoryBoy]

def name : Dialect → String
  | .plain => "Plain"
  | .sql => "Sql"
  | .sqlite => "Sqlite"
  | .postgres => "Postgres"
  | .pgEnum => "PgEnum"
  | .abap => "Abap"
  | .haskell => "Haskell"
  | .java => "Java"
  | .scala => "Scala"
  | .sqlAlchemy => "SqlAlchemy"
  | .django => "Django"
  | .factoryBoy => "FactoryBoy"

def ofName? (s : String) : Option Dialect :=
  all.find? (·.name = s)

def isSql : Dialect → Bool
  | .sql | .sqlite | .postgres | .pgEnum => true
  | _ => false

end Dialect

namespace BaseType

def sqlName : BaseType → String
  | .str => "varchar"
  | .txt => "text"
  | .date => "date"
  | .time => "time"
  | .interval => "interval"
  | .bool => "boolean"
  | .int => "integer"
  | .dec | .float => "float"
  | .double => "double"
  | .numeric => "numeric"
  | .serial => "serial"

def abapName : BaseType → String
  | .str | .txt => "STRING"
  | .date => "D"
  | .time | .interval => "T"
  | .bool => "C"
  | .int => "I"
  | .dec | .float | .double | .numeric => "F"
  | .serial => "serial"

def haskellName : BaseType → String
  | .str | .txt => "String"
  | .date => "Date"
  | .time => "POSIXTime"
  | .interval => "DiffTime"
  | .bool => "Bool"
  | .int | .serial => "Int"
  | .dec | .float | .double | .numeric => "Double"

def jvmName? : BaseType → Option String
  | .int | .serial => some "Integer"
  | .dec | .float | .double => some "Float"
  | .txt | .str => some "String"
  | .bool => some "Boolean"
  | .date => some "Date"
  | .time => some "Time"
  | .interval => some "Duration"
  | .numeric => none

def sqlAlchemyName? : BaseType → Option String
  | .int | .serial => some "Integer"
  | .dec | .float | .double => some "Float"
  | .txt | .str => some "String"
  | .bool => some "Boolean"
  | .date => some "Date"
  | .time => some "Time"
  | .interval => some "Interval"
  | .numeric => none

def djangoName? : BaseType → Option String
  | .int | .serial => some "IntegerField"
  | .dec | .float | .double => some "FloatField"
  | .txt => some "TextField"
  | .str => some "CharField"
  | .bool => some "BooleanField"
  | .date => some "DateField"
  | .time => some "TimeField"
  | .interval => some "DurationField"
  | .numeric => none

/-- The generator of sample values for a type. -/
def sampleName? : BaseType → Option String
  | .int | .serial => some "pyint"
  | .dec | .float | .double => some "pyfloat"
  | .txt => some "text"
  | .str => some "pystr"
  | .bool => some "pybool"
  | .date => some "date"
  | .time => some "time"
  | .interval => some "time_delta"
  | .numeric => none

end BaseType

namespace Dialect

/-- The name of a base type, unless the dialect has none for it. -/
def typeName? : Dialect → BaseType → Option String
  | .plain, t => some t.name
  | .sql, t | .sqlite, t | .postgres, t | .pgEnum, t => some t.sqlName
  | .abap, t => some t.abapName
  | .haskell, t => some t.haskellName
  | .java, t | .scala, t => t.jvmName?
  | .sqlAlchemy, t => t.sqlAlchemyName?
  | .django, t => t.djangoName?
  | .factoryBoy, t => t.sampleName?

/-- The type of a column that may have a length. A short text without one is a long text, and only
SQL writes the length. -/
def columnType? (d : Dialect) (t : BaseType) (length : Option UInt32) : Option String :=
  match t, length with
  | .str, some n =>
    (d.typeName? .str).map fun name =>
      if d.isSql then name ++ "(" ++ toString n.toNat ++ ")" else name
  | .str, none => d.typeName? .txt
  | t, _ => d.typeName? t

/-- A type without a name is the numeric one, in a dialect of the JVM or of Python. -/
theorem typeName?_eq_none_iff (d : Dialect) (t : BaseType) :
    d.typeName? t = none ↔
      t = .numeric ∧ d ∈ [Dialect.java, .scala, .sqlAlchemy, .django, .factoryBoy] := by
  cases d <;> cases t <;> decide

end Dialect

end RelSchema
