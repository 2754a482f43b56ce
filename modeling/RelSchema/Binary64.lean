namespace RelSchema

/-- A number in the 64-bit binary interchange format: a sign, eleven bits of exponent and fifty-two
of fraction. -/
structure Binary64 where
  bits : UInt64
  deriving DecidableEq, Inhabited

/-- The number `mantissa * 2 ^ exponent`. -/
structure Dyadic where
  mantissa : Nat
  exponent : Int
  /-- The neighbour below is half as far away as the one above. -/
  narrowBelow : Bool

namespace Binary64

def isNegative (x : Binary64) : Bool :=
  x.bits.toNat / Nat.pow 2 63 = 1

def exponentField (x : Binary64) : Nat :=
  x.bits.toNat / Nat.pow 2 52 % Nat.pow 2 11

def fraction (x : Binary64) : Nat :=
  x.bits.toNat % Nat.pow 2 52

def isNaN (x : Binary64) : Bool :=
  x.exponentField = 2047 && x.fraction ≠ 0

def isInfinite (x : Binary64) : Bool :=
  x.exponentField = 2047 && x.fraction = 0

def isFinite (x : Binary64) : Bool :=
  x.exponentField ≠ 2047

def isZero (x : Binary64) : Bool :=
  x.exponentField = 0 && x.fraction = 0

def magnitude (x : Binary64) : Dyadic :=
  if x.exponentField = 0 then ⟨x.fraction, -1074, false⟩
  else ⟨Nat.pow 2 52 + x.fraction, x.exponentField - 1075, x.fraction = 0 && x.exponentField > 1⟩

/-- Equality of numbers: the two zeros are equal and a NaN differs from itself. -/
instance : BEq Binary64 where
  beq x y := !x.isNaN && !y.isNaN && (x.bits = y.bits || (x.isZero && y.isZero))

/-- The whole number that a finite `x` is, if it is one. -/
def toInt? (x : Binary64) : Option Int :=
  let m := x.magnitude
  let size : Option Nat :=
    if m.exponent ≥ 0 then some (m.mantissa * Nat.pow 2 m.exponent.toNat)
    else if m.mantissa % Nat.pow 2 (-m.exponent).toNat = 0 then
      some (m.mantissa / Nat.pow 2 (-m.exponent).toNat)
    else none
  if x.isFinite then size.map fun n => if x.isNegative then -n else n else none

/-- The number of the given sign whose other bits are `magnitude`. -/
def ofMagnitude (negative : Bool) (magnitude : Nat) : Binary64 :=
  ⟨.ofNat ((if negative then Nat.pow 2 63 else 0) + magnitude)⟩

def infinityBits : Nat := 0x7FF0000000000000

def infinity (negative : Bool) : Binary64 :=
  ofMagnitude negative infinityBits

def nan : Binary64 := ⟨0x7FF8000000000000⟩

end Binary64

end RelSchema
