import RelSchema.Text.Words
import RelSchema.Value

namespace RelSchema

inductive KeyKind
  | text | int
  deriving DecidableEq

def KeyKind.name : KeyKind → String
  | .text => "str"
  | .int => "int"

/-- A named list of keys with their values, which fields refer to by name. -/
structure Enumeration where
  name : String
  entries : List (Value × Value)
  deriving BEq, DecidableEq, Inhabited

namespace Enumeration

def keys (e : Enumeration) : List Value :=
  e.entries.map (·.1)

def values (e : Enumeration) : List Value :=
  e.entries.map (·.2)

def items (e : Enumeration) : List (String × String) :=
  e.entries.map fun (key, value) => (key.display, value.display)

/-- The kind of the first key, which an empty enumeration lacks. -/
def keyKind? (e : Enumeration) : Option KeyKind :=
  e.entries.head?.map fun
    | (.int _, _) | (.bool _, _) => .int
    | _ => .text

def className (e : Enumeration) : String :=
  Text.pascalCase e.name

def display (e : Enumeration) : String :=
  "<Enum '" ++ e.name ++ "'>"

end Enumeration

end RelSchema
