import RelSchema.Binary64.Shortest

namespace RelSchema

/-- How a format lays numbers out. -/
structure NumberStyle where
  tie : Tie
  /-- The positions of the point, counted from the first digit and given as an open lower and a
  closed upper end, at which no exponent is written; at every position if there are no ends. -/
  positional : Option (Int × Int)
  /-- What follows a whole number written without an exponent. -/
  wholeSuffix : String
  infinity : String
  nan : String

/-- Plain text: never an exponent, and whole numbers without a point. -/
def NumberStyle.plain : NumberStyle where
  tie := .up
  positional := none
  wholeSuffix := ""
  infinity := "inf"
  nan := "NaN"

/-- Document text: every number has a point or an exponent, so that none reads as an integer. -/
def NumberStyle.document : NumberStyle where
  tie := .toEven
  positional := some (-5, 16)
  wholeSuffix := ".0"
  infinity := ".inf"
  nan := ".nan"

namespace NumberStyle

def isPositional (style : NumberStyle) (point : Int) : Bool :=
  match style.positional with
  | none => true
  | some (low, high) => low < point && point ≤ high

/-- Digits with the point at a position counted from the first of them. -/
def positionalText (style : NumberStyle) (digits : List Char) (point : Int) : String :=
  if point ≤ 0 then "0." ++ .ofList (List.replicate (-point).toNat '0' ++ digits)
  else if digits.length ≤ point.toNat then
    .ofList (digits ++ List.replicate (point.toNat - digits.length) '0') ++ style.wholeSuffix
  else .ofList (digits.take point.toNat) ++ "." ++ .ofList (digits.drop point.toNat)

def exponentText (digits : List Char) (point : Int) : String :=
  match digits with
  | [d] => .ofList [d] ++ "e" ++ toString (point - 1)
  | d :: rest => .ofList (d :: '.' :: rest) ++ "e" ++ toString (point - 1)
  | [] => ""

def magnitudeText (style : NumberStyle) (x : Dyadic) : String :=
  let d := x.shortest style.tie
  let all := Nat.toDigits 10 d.digits
  let digits := (all.reverse.dropWhile (· = '0')).reverse
  let point := (all.length : Int) + d.exponent
  if style.isPositional point then style.positionalText digits point else exponentText digits point

def text (style : NumberStyle) (x : Binary64) : String :=
  if x.isNaN then style.nan
  else
    (if x.isNegative then "-" else "") ++
      if x.isInfinite then style.infinity
      else if x.isZero then "0" ++ style.wholeSuffix
      else style.magnitudeText x.magnitude

end NumberStyle

end RelSchema
