/-!
# Double-precision numbers

The numbers of the binary interchange format with 53 significant bits, as exact dyadic
rationals.  A finite number is a sign, a natural mantissa below `2 ^ 53` and an exponent of two
not below `-1074`; its magnitude is `mantissa * 2 ^ exponent`.  All arithmetic is exact and is
rounded once, to the nearest number, a tie going to the even mantissa.
-/

namespace FeatureRunner

/-- A double-precision number. -/
inductive Double where
  | nan
  | infinite (negative : Bool)
  | finite (negative : Bool) (mantissa : Nat) (exponent : Int)
deriving DecidableEq, Repr

namespace Double

def leastMantissa : Nat := Nat.pow 2 52

def zero (negative : Bool) : Double := finite negative 0 (-1074)

/-- The quotient rounded to the nearest natural number, a tie going to the even one. -/
def roundQuotient (numerator denominator : Nat) : Nat :=
  let quotient := numerator / denominator
  let doubled := 2 * (numerator % denominator)
  if doubled > denominator ∨ (doubled = denominator ∧ quotient % 2 = 1) then quotient + 1
  else quotient

/-- The quotient of a fraction by a power of two, as a fraction again. -/
def scaleDown (numerator denominator : Nat) (exponent : Int) : Nat × Nat :=
  if exponent ≥ 0 then (numerator, denominator * Nat.pow 2 exponent.toNat)
  else (numerator * Nat.pow 2 (-exponent).toNat, denominator)

/-- The exponent of two that gives a positive fraction a mantissa of 53 bits, or the least
exponent if the fraction is too small for that. -/
def exponentFor (numerator denominator : Nat) : Int :=
  let guess : Int := (Nat.log2 numerator : Int) - (Nat.log2 denominator : Int) - 52
  let (n, d) := scaleDown numerator denominator guess
  let exponent := if n / d < leastMantissa then guess - 1 else guess
  max exponent (-1074)

/-- The double nearest to a fraction, with the given sign. -/
def ofFraction (negative : Bool) (numerator denominator : Nat) : Double :=
  if numerator = 0 then zero negative
  else
    let exponent := exponentFor numerator denominator
    let (n, d) := scaleDown numerator denominator exponent
    let mantissa := roundQuotient n d
    let (mantissa, exponent) :=
      if mantissa = 2 * leastMantissa then (leastMantissa, exponent + 1) else (mantissa, exponent)
    if exponent > 971 then infinite negative else finite negative mantissa exponent

/-- The double nearest to `digits * 10 ^ exponent`, with the given sign.  Exponents far outside
the range of the format are decided by the number of digits alone. -/
def ofDecimal (negative : Bool) (digits : Nat) (exponent : Int) : Double :=
  let magnitude : Int := (Nat.toDigits 10 digits).length + exponent
  if digits = 0 then zero negative
  else if magnitude > 400 then infinite negative
  else if magnitude < -400 then zero negative
  else if exponent ≥ 0 then ofFraction negative (digits * Nat.pow 10 exponent.toNat) 1
  else ofFraction negative digits (Nat.pow 10 (-exponent).toNat)

/-- The double nearest to an integer, or nothing if the integer lies beyond all finite ones. -/
def ofInt? (i : Int) : Option Double :=
  match ofFraction (i < 0) i.natAbs 1 with
  | finite negative mantissa exponent => some (finite negative mantissa exponent)
  | _ => none

/-- The value of a finite double as a multiple of a power of two not above its exponent. -/
def unitsOf (negative : Bool) (mantissa : Nat) (exponent unit : Int) : Int :=
  let magnitude : Int := mantissa * Nat.pow 2 (exponent - unit).toNat
  if negative then -magnitude else magnitude

/-- The sum, rounded once.  Opposite infinities have no sum, and a sum of zero is positive
unless both parts are negative. -/
def add : Double → Double → Double
  | nan, _ => nan
  | _, nan => nan
  | infinite a, infinite b => if a = b then infinite a else nan
  | infinite a, finite .. => infinite a
  | finite .., infinite b => infinite b
  | finite a m e, finite b n f =>
    let unit := min e f
    let total := unitsOf a m e unit + unitsOf b n f unit
    let negative := if total = 0 then a && b else decide (total < 0)
    if unit ≥ 0 then ofFraction negative (total.natAbs * Nat.pow 2 unit.toNat) 1
    else ofFraction negative total.natAbs (Nat.pow 2 (-unit).toNat)

def isZero : Double → Bool
  | finite _ mantissa _ => mantissa == 0
  | _ => false

/-- The integer that a double equals, if there is one. -/
def toInt? : Double → Option Int
  | nan => none
  | infinite _ => none
  | finite negative mantissa exponent =>
    if exponent ≥ 0 then
      some (unitsOf negative mantissa exponent 0)
    else
      let divisor := Nat.pow 2 (-exponent).toNat
      if mantissa % divisor = 0 then
        some (if negative then -((mantissa / divisor : Nat) : Int) else (mantissa / divisor : Nat))
      else none

end Double

end FeatureRunner
