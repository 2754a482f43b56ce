import RelSchema.Text.Digits
import RelSchema.Value
import RelSchema.Yaml.Node

namespace RelSchema.Yaml

inductive Scalar
  | null
  | bool (b : Bool)
  /-- A whole number of at most 128 bits. -/
  | int (n : Int)
  | float (x : Binary64)
  | text (s : String)

namespace Scalar

def null? (s : String) : Bool :=
  s ∈ ["~", "null", "Null", "NULL"]

def bool? (s : String) : Option Bool :=
  if s ∈ ["true", "True", "TRUE"] then some true
  else if s ∈ ["false", "False", "FALSE"] then some false
  else none

/-- Decimal digits that begin with a zero too many. -/
def hasLeadingZero (digits : List Char) : Bool :=
  digits.length > 1 && digits.head? = some '0' && digits.all Char.isDigit

/-- A number with a sign before the mark of its base, or decimal digits without a leading zero. -/
def magnitude? : List Char → Option Nat
  | '0' :: 'x' :: digits => Text.natural? 16 digits
  | '0' :: 'o' :: digits => Text.natural? 8 digits
  | '0' :: 'b' :: digits => Text.natural? 2 digits
  | digits => if hasLeadingZero digits then none else Text.natural? 10 digits

def int? (s : String) : Option Int := do
  let (negative, digits) := Binary64.takeSign s.toList
  let n ← magnitude? digits
  if negative then (if n ≤ Nat.pow 2 127 then return -n else none)
  else if n < Nat.pow 2 128 then return n
  else none

/-- A finite decimal, or one of the names of the other floats. -/
def float? (s : String) : Option Binary64 :=
  if s ∈ [".inf", ".Inf", ".INF", "+.inf", "+.Inf", "+.INF"] then some (.infinity false)
  else if s ∈ ["-.inf", "-.Inf", "-.INF"] then some (.infinity true)
  else if s ∈ [".nan", ".NaN", ".NAN"] then some .nan
  else (Binary64.ofText? s).filter (·.isFinite)

/-- Digits with a leading zero, which stay a text. -/
def isCode (s : String) : Bool :=
  hasLeadingZero (Binary64.takeSign s.toList).2

def ofPlain (s : String) : Scalar :=
  if s.isEmpty || null? s then .null
  else match bool? s with
    | some b => .bool b
    | none => match int? s with
      | some n => .int n
      | none => match if isCode s then none else float? s with
        | some x => .float x
        | none => .text s

/-- What a scalar stands for. A tag decides the type, but not what the text may look like. One of
the document's own that names nothing decides nothing. -/
def of? (tag : Option Tag) (isPlain : Bool) (s : String) : Option Scalar :=
  if tag.any (·.isUnknown) then none
  else if tag = some (.core "bool") then (bool? s).map .bool
  else if tag = some (.core "int") then (int? s).map .int
  else if tag = some (.core "float") then (float? s).map .float
  else if tag = some (.core "null") then (if null? s then some .null else none)
  else if tag.all (·.isLocal) && isPlain then some (ofPlain s)
  else some (.text s)

def fits : Scalar → Bool
  | .int n => Int64.minValue.toInt ≤ n && n < UInt64.size
  | _ => true

/-- The value of a scalar. Numbers between those with a sign and those without become floats. -/
def value? (scalar : Scalar) : Option Value :=
  if !scalar.fits then none
  else some <| match scalar with
    | .null => .null
    | .bool b => .bool b
    | .int n => if n ≤ Int64.maxValue.toInt then .int (.ofInt n) else .float (.ofNat n.toNat)
    | .float x => .float x
    | .text s => .text s

end Scalar

end RelSchema.Yaml
