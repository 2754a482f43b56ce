namespace RelSchema

inductive BaseType
  | serial | str | txt | date | time | interval | bool | int | dec | float | double | numeric
  deriving DecidableEq, Inhabited

namespace BaseType

def all : List BaseType :=
  [.serial, .str, .txt, .date, .time, .interval, .bool, .int, .dec, .float, .double, .numeric]

def name : BaseType → String
  | .serial => "serial"
  | .str => "str"
  | .txt => "txt"
  | .date => "date"
  | .time => "time"
  | .interval => "interval"
  | .bool => "bool"
  | .int => "int"
  | .dec => "dec"
  | .float => "float"
  | .double => "double"
  | .numeric => "numeric"

def ofName? (s : String) : Option BaseType :=
  all.find? (·.name = s)

def isNumber : BaseType → Bool
  | .int | .dec | .float | .double | .numeric => true
  | _ => false

theorem mem_all (t : BaseType) : t ∈ all := by
  cases t <;> decide

theorem ofName?_name (t : BaseType) : ofName? t.name = some t := by
  cases t <;> decide

end BaseType

end RelSchema
