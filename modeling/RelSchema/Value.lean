import RelSchema.Binary64.Nearest
import RelSchema.Binary64.Notation
import RelSchema.Text.Blank

namespace RelSchema

inductive Value
  | null
  | bool (b : Bool)
  | int (n : Int64)
  | float (x : Binary64)
  | text (s : String)
  deriving DecidableEq, Inhabited

def clampInt64 (n : Int) : Int64 :=
  .ofInt (max Int64.minValue.toInt (min Int64.maxValue.toInt n))

/-- Reads decimal digits with an optional sign, unless the number leaves the 64-bit range. -/
def int64OfText? (s : String) : Option Int64 :=
  let (negative, digits) := Binary64.takeSign s.toList
  if digits.isEmpty || !digits.all Char.isDigit then none
  else
    let n : Int := Binary64.digitsValue digits
    let n := if negative then -n else n
    if Int64.minValue.toInt ≤ n && n ≤ Int64.maxValue.toInt then some (.ofInt n) else none

namespace Value

/-- Values of different kinds differ, and floats compare as numbers. -/
instance : BEq Value where
  beq
    | .null, .null => true
    | .bool a, .bool b => a == b
    | .int a, .int b => a == b
    | .float a, .float b => a == b
    | .text a, .text b => a == b
    | _, _ => false

def isNull : Value → Bool
  | .null => true
  | _ => false

/-- Numbers are written without quotes, and truth values count among them. -/
def isNumber : Value → Bool
  | .bool _ | .int _ | .float _ => true
  | _ => false

/-- Null, zero, false and the empty text do not count as given. -/
def isTruthy : Value → Bool
  | .null => false
  | .bool b => b
  | .int n => n ≠ 0
  | .float x => !x.isZero
  | .text s => !s.isEmpty

def text? : Value → Option String
  | .text s => some s
  | _ => none

/-- The whole number that a value stands for, be it written as a number, a text or a truth value. -/
def int? : Value → Option Int64
  | .null => none
  | .bool b => some (if b then 1 else 0)
  | .int n => some n
  | .float x => x.toInt?.map clampInt64
  | .text s => int64OfText? (Text.trim s)

def boolText (b : Bool) : String :=
  if b then "true" else "false"

def display : Value → String
  | .null => "null"
  | .bool b => boolText b
  | .int n => toString n.toInt
  | .float x => NumberStyle.plain.text x
  | .text s => s

/-- A text between double quotes; any other value as it is. -/
def quoted : Value → Value
  | .text s => .text ("\"" ++ s ++ "\"")
  | v => v

/-- The text of a cell that holds text, where null stands for none. -/
def cellText : Value → String
  | .null => ""
  | v => v.display

/-- The cell of a text, where null stands for none. -/
def ofCellText (s : String) : Value :=
  if s.isEmpty then .null else .text s

end Value

end RelSchema
