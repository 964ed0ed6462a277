import FeatureRunner.Number.Double
import FeatureRunner.Text.Basic

/-!
# Shortest decimal texts of doubles

A double is written with the fewest significant digits that read back as the same number, and of
those with the digits nearest to it.  Digits are searched from one to seventeen of them: on each
decimal grid only the two neighbours of the number can be the nearest ones.

The written form is positional from `1e-4` up to below `1e16`, and always keeps a point; outside
of that range it has an exponent of at least two digits.
-/

namespace FeatureRunner

namespace Double

/-- A positive double in a form ready for decimal search: its value and the two ends of the
interval of numbers that round to it, as multiples of `1 / scale`.  The ends belong to the
interval when the mantissa is even. -/
structure Neighbourhood where
  value : Nat
  low : Nat
  high : Nat
  scale : Nat
  closed : Bool

/-- The neighbourhood of `mantissa * 2 ^ exponent`.  Below a power of two the neighbouring
double is only half as far away. -/
def neighbourhood (mantissa : Nat) (exponent : Int) : Neighbourhood :=
  let lowGap := if mantissa = leastMantissa ∧ exponent > -1074 then 1 else 2
  let quarter := exponent - 2
  let factor := if quarter ≥ 0 then Nat.pow 2 quarter.toNat else 1
  { value := 4 * mantissa * factor
    low := (4 * mantissa - lowGap) * factor
    high := (4 * mantissa + 2) * factor
    scale := if quarter ≥ 0 then 1 else Nat.pow 2 (-quarter).toNat
    closed := mantissa % 2 = 0 }

/-- Whether the decimal `digits * 10 ^ exponent` lies in the interval. -/
def Neighbourhood.holds (place : Neighbourhood) (digits : Nat) (exponent : Int) : Bool :=
  let point := digits * (if exponent ≥ 0 then Nat.pow 10 exponent.toNat else 1) * place.scale
  let stretch := if exponent ≥ 0 then 1 else Nat.pow 10 (-exponent).toNat
  if place.closed then
    place.low * stretch ≤ point && point ≤ place.high * stretch
  else
    place.low * stretch < point && point < place.high * stretch

/-- The least `k` with value below `10 ^ k`, for a value that lies in the range of doubles. -/
def Neighbourhood.decimalPlace (place : Neighbourhood) : Int :=
  let whole := place.value / place.scale
  if whole > 0 then (Nat.toDigits 10 whole).length
  else
    match (List.range 400).find? fun j => place.value * Nat.pow 10 j ≥ place.scale with
    | some j => 1 - (j : Int)
    | none => 0

/-- The digits of the given count nearest to the value among those in the interval, with the
exponent of ten of the last one. -/
def Neighbourhood.nearest? (place : Neighbourhood) (count : Nat) : Option (Nat × Int) :=
  let exponent := place.decimalPlace - count
  let numerator := place.value * (if exponent ≥ 0 then 1 else Nat.pow 10 (-exponent).toNat)
  let denominator := place.scale * (if exponent ≥ 0 then Nat.pow 10 exponent.toNat else 1)
  let below := numerator / denominator
  let rounded := Double.roundQuotient numerator denominator
  let other := if rounded = below then below + 1 else below
  if place.holds rounded exponent then some (rounded, exponent)
  else if place.holds other exponent then some (other, exponent)
  else none

/-- The fewest digits that read back, with the exponent of ten of the last one. -/
def shortestDigits (mantissa : Nat) (exponent : Int) : Nat × Int :=
  let place := neighbourhood mantissa exponent
  match (List.range 17).findSome? fun n => place.nearest? (n + 1) with
  | some found => found
  | none => (0, 0)

def trimZeros (digits : Text) : Text :=
  (digits.reverse.dropWhile (· = '0')).reverse

/-- The positional form of `0.digits * 10 ^ place`, which keeps a point. -/
def positional (digits : Text) (place : Int) : Text :=
  if place ≤ 0 then
    "0.".toList ++ List.replicate (-place).toNat '0' ++ digits
  else
    let whole := digits.take place.toNat
    let fraction := digits.drop place.toNat
    whole ++ List.replicate (place.toNat - digits.length) '0' ++ '.' ::
      (if fraction = [] then ['0'] else fraction)

/-- The form of `0.digits * 10 ^ place` with an exponent of ten. -/
def scientific (digits : Text) (place : Int) : Text :=
  let exponent := place - 1
  let exponentDigits := Text.ofNat exponent.natAbs
  digits.take 1 ++ (if digits.length > 1 then '.' :: digits.drop 1 else []) ++
    ['e', if exponent < 0 then '-' else '+'] ++
    List.replicate (2 - exponentDigits.length) '0' ++ exponentDigits

def toText : Double → Text
  | nan => "nan".toList
  | infinite negative => (if negative then "-inf" else "inf").toList
  | finite negative mantissa exponent =>
    let sign : Text := if negative then ['-'] else []
    if mantissa = 0 then sign ++ "0.0".toList
    else
      let (number, last) := shortestDigits mantissa exponent
      let written := Text.ofNat number
      let place : Int := written.length + last
      let digits := trimZeros written
      sign ++ (if -4 < place ∧ place ≤ 16 then positional digits place
        else scientific digits place)

end Double

end FeatureRunner
