import RelSchema.Binary64

namespace RelSchema.Binary64

/-- The quotient rounded to the nearest whole number, a half to the even one. -/
def roundDiv (n d : Nat) : Nat :=
  let q := n / d
  let r := n % d
  if 2 * r > d || (2 * r = d && q % 2 = 1) then q + 1 else q

/-- The greatest power of two, as its exponent, that is at most `n / d`. -/
def floorLog2 (n d : Nat) : Int :=
  let guess : Int := (n.log2 : Int) - d.log2
  if n * Nat.pow 2 (-guess).toNat < d * Nat.pow 2 guess.toNat then guess - 1 else guess

/-- The magnitude bits of the number nearest to `n / d`, for positive `n` and `d`. -/
def nearestRatio (n d : Nat) : Nat :=
  let unit : Int := max (-1074) (floorLog2 n d - 52)
  let mantissa := roundDiv (n * Nat.pow 2 (-unit).toNat) (d * Nat.pow 2 unit.toNat)
  min infinityBits ((unit + 1074).toNat * Nat.pow 2 52 + mantissa)

/-- The magnitude bits of the number nearest to `digits * 10 ^ exponent`. Past four hundred places
on either side everything is infinite or zero. -/
def nearest (digits : Nat) (exponent : Int) : Nat :=
  let places : Int := (Nat.toDigits 10 digits).length + exponent
  if digits = 0 || places < -400 then 0
  else if places > 400 then infinityBits
  else nearestRatio (digits * Nat.pow 10 exponent.toNat) (Nat.pow 10 (-exponent).toNat)

def ofNat (n : Nat) : Binary64 :=
  ofMagnitude false (nearest n 0)

def digitsValue (cs : List Char) : Nat :=
  cs.foldl (fun n c => n * 10 + (c.toNat - '0'.toNat)) 0

/-- A sign, if one comes first, and what follows it. -/
def takeSign : List Char → Bool × List Char
  | '-' :: rest => (true, rest)
  | '+' :: rest => (false, rest)
  | cs => (false, cs)

/-- The value of `e` and a signed run of digits, or zero where nothing is left. -/
def exponentValue? : List Char → Option Int
  | [] => some 0
  | c :: rest =>
    let (negative, digits) := takeSign rest
    if (c = 'e' || c = 'E') && !digits.isEmpty && digits.all Char.isDigit then
      some (if negative then -digitsValue digits else digitsValue digits)
    else none

/-- Reads an unsigned decimal with an optional point and exponent, and at least one digit. -/
def decimalMagnitude? (cs : List Char) : Option Nat :=
  let whole := cs.takeWhile Char.isDigit
  let rest := cs.dropWhile Char.isDigit
  let (fraction, rest) := match rest with
    | '.' :: rest => (rest.takeWhile Char.isDigit, rest.dropWhile Char.isDigit)
    | _ => ([], rest)
  if whole.isEmpty && fraction.isEmpty then none
  else
    (exponentValue? rest).map fun e =>
      nearest (digitsValue (whole ++ fraction)) (e - fraction.length)

/-- Reads a decimal, `inf`, `infinity` or `nan`, with an optional sign and in either case. -/
def ofText? (s : String) : Option Binary64 :=
  let (negative, cs) := takeSign s.toList
  let name := String.ofList (cs.map Char.toLower)
  if name = "inf" || name = "infinity" then some (infinity negative)
  else if name = "nan" then
    some (ofMagnitude negative nan.bits.toNat)
  else (decimalMagnitude? cs).map (ofMagnitude negative)

end RelSchema.Binary64
