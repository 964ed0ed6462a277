import FeatureRunner.Number.Double
import FeatureRunner.Text.Blank
import FeatureRunner.Text.Word

/-!
# Number texts

Reading decimal digits, whole numbers with digits of any script, and decimal fractions with an
exponent.
-/

namespace FeatureRunner

/-- The value of an ASCII digit in a base up to sixteen. -/
def digitIn? (base : Nat) (c : Char) : Option Nat :=
  let n := c.toNat
  let value? :=
    if 0x30 ≤ n ∧ n ≤ 0x39 then some (n - 0x30)
    else if 0x61 ≤ n ∧ n ≤ 0x66 then some (n - 0x61 + 10)
    else if 0x41 ≤ n ∧ n ≤ 0x46 then some (n - 0x41 + 10)
    else none
  value?.filter (· < base)

/-- Whether a character is an ASCII digit of the given base. -/
def isDigitIn (base : Nat) (c : Char) : Bool := (digitIn? base c).isSome

/-- The number that a text of digits of the given base writes.  Other characters count as
zeros. -/
def numberIn (base : Nat) (digits : Text) : Nat :=
  digits.foldl (fun value c => base * value + (digitIn? base c).getD 0) 0

/-- The digits of a text in which single underscores stand between digits, or nothing if the
text is of any other form.  Digits of every script are taken. -/
def groupedDigits? : Text → Option (List Nat)
  | [] => none
  | [c] => (decimalDigit? c).map fun digit => [digit]
  | c :: '_' :: rest => do
    let digit ← decimalDigit? c
    let others ← groupedDigits? rest
    return digit :: others
  | c :: rest => do
    let digit ← decimalDigit? c
    let others ← groupedDigits? rest
    return digit :: others

/-- The longest text a whole number may be written with, in digits. -/
def wholeNumberDigitLimit : Nat := 4300

/-- The message about a whole number that is written with more digits than that. -/
def longNumberMessage (digits : Nat) : Text :=
  "Exceeds the limit (".toList ++ Text.ofNat wholeNumberDigitLimit ++
    " digits) for integer string conversion: value has ".toList ++ Text.ofNat digits ++
    " digits; use sys.set_int_max_str_digits() to increase the limit".toList

/-- The message about a whole number that would have to be written with more digits than that. -/
def unwritableNumberMessage : Text :=
  "Exceeds the limit (".toList ++ Text.ofNat wholeNumberDigitLimit ++
    (" digits) for integer string conversion; use sys.set_int_max_str_digits() to increase the " ++
      "limit").toList

/-- Whether a whole number can be written within the limit. -/
def isWritable (number : Int) : Bool := number.natAbs < Nat.pow 10 wholeNumberDigitLimit

/-- Why a text is not read as a whole number. -/
inductive WholeNumberFlaw where
  | malformed
  | tooLong (digits : Nat)
deriving DecidableEq, Repr

/-- The sign that a text begins with, as whether it is a minus sign, and what follows. -/
def splitSign : Text → Bool × Text
  | '-' :: rest => (true, rest)
  | '+' :: rest => (false, rest)
  | text => (false, text)

/-- Whether a character may stand around a whole number: white space, but not the four control
characters that separate files, groups, records and units. -/
def isMargin (c : Char) : Bool := isBlank c && !(0x1c ≤ c.toNat && c.toNat ≤ 0x1f)

/-- The whole number that a text writes, with an optional sign and margins around it.  A text that
begins with too many digits is too long, whatever comes after them. -/
def readWholeNumber (text : Text) : Except WholeNumberFlaw Int :=
  let (negative, body) := splitSign (text.dropWhile isMargin)
  let counts (c : Char) : Bool := (decimalDigit? c).isSome || c = '_'
  match groupedDigits? (body.takeWhile counts) with
  | none => .error .malformed
  | some digits =>
    if digits.length > wholeNumberDigitLimit then .error (.tooLong digits.length)
    else if !(body.dropWhile counts).all isMargin then .error .malformed
    else
      let magnitude : Nat := digits.foldl (fun total digit => 10 * total + digit) 0
      .ok (if negative then -(magnitude : Int) else magnitude)

end FeatureRunner
