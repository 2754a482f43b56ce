import RelSchema.Binary64

namespace RelSchema

/-- The number `digits * 10 ^ exponent`. -/
structure Decimal where
  digits : Nat
  exponent : Int
  deriving DecidableEq

/-- Which of two equally near decimals is taken. -/
inductive Tie
  | toEven | up
  deriving DecidableEq

/-- Compares `a * 10 ^ i` with `n * 2 ^ j`. -/
def compareScaled (a : Nat) (i : Int) (n : Nat) (j : Int) : Ordering :=
  compare (a * Nat.pow 10 i.toNat * Nat.pow 2 (-j).toNat)
    (n * Nat.pow 2 j.toNat * Nat.pow 10 (-i).toNat)

namespace Dyadic

/-- Whether a decimal lies among the reals that round to `x`. The ends of that interval belong to it
when the mantissa is even. -/
def readsBack (x : Dyadic) (d : Decimal) : Bool :=
  let low := if x.narrowBelow then 4 * x.mantissa - 1 else 4 * x.mantissa - 2
  let high := 4 * x.mantissa + 2
  let even := x.mantissa % 2 = 0
  let aboveLow := compareScaled d.digits d.exponent low (x.exponent - 2)
  let belowHigh := compareScaled d.digits d.exponent high (x.exponent - 2)
  (aboveLow = .gt || (even && aboveLow = .eq)) && (belowHigh = .lt || (even && belowHigh = .eq))

def numerator (x : Dyadic) : Nat := x.mantissa * Nat.pow 2 x.exponent.toNat

def denominator (x : Dyadic) : Nat := Nat.pow 2 (-x.exponent).toNat

/-- The least power of ten, as its exponent, that exceeds a positive `x`. -/
def scale (x : Dyadic) : Int :=
  if x.numerator < x.denominator then
    1 - (Nat.toDigits 10 ((x.denominator - 1) / x.numerator)).length
  else (Nat.toDigits 10 (x.numerator / x.denominator)).length

/-- The multiples of `10 ^ grid` next to `x` that read back as it, nearest first. -/
def onGrid? (tie : Tie) (x : Dyadic) (grid : Int) : Option Decimal :=
  let below := x.numerator * Nat.pow 10 (-grid).toNat / (x.denominator * Nat.pow 10 grid.toNat)
  let lowerFits := x.readsBack ⟨below, grid⟩
  let upperFits := x.readsBack ⟨below + 1, grid⟩
  if lowerFits && upperFits then
    match compareScaled (2 * below + 1) grid (2 * x.mantissa) x.exponent with
    | .gt => some ⟨below, grid⟩
    | .lt => some ⟨below + 1, grid⟩
    | .eq => some ⟨if tie = .toEven && below % 2 = 0 then below else below + 1, grid⟩
  else if lowerFits then some ⟨below, grid⟩
  else if upperFits then some ⟨below + 1, grid⟩
  else none

def exact (x : Dyadic) : Decimal :=
  if x.exponent ≥ 0 then ⟨x.numerator, 0⟩
  else ⟨x.mantissa * Nat.pow 5 (-x.exponent).toNat, x.exponent⟩

/-- The shortest decimal of a positive number. Seventeen digits always suffice. -/
def shortest (tie : Tie) (x : Dyadic) : Decimal :=
  ((List.range 17).findSome? fun (n : Nat) => x.onGrid? tie (x.scale - (n + 1))).getD x.exact

end Dyadic

end RelSchema
