import FeatureRunner.Text.Basic

/-!
# Run names

Every run has a name of its own: a fixed beginning and twenty-six digits of a number in base
thirty-two, made from the time and from chance.
-/

namespace FeatureRunner

namespace RunId

def opening : Text := "run_".toList

/-- The digits of base thirty-two, without the letters that look like digits. -/
def digits : Text := "0123456789ABCDEFGHJKMNPQRSTVWXYZ".toList

def digit (n : Nat) : Char := digits.getD n '0'

/-- The last digits of a number in base thirty-two, of the given count. -/
def lastDigits : Nat → Nat → Text
  | 0, _ => []
  | count + 1, n => lastDigits count (n / 32) ++ [digit (n % 32)]

def ofNat (n : Nat) : Text := opening ++ lastDigits 26 n

/-- The numbers that chance gives for a run name lie below this one. -/
def chanceBound : Nat := Nat.pow 2 80

/-- The run name of a moment, in milliseconds, and of a number that chance gave. -/
def ofMoment (milliseconds chance : Nat) : Text :=
  ofNat (milliseconds * chanceBound + chance % chanceBound)

def isRunId (text : Text) : Bool :=
  let tail := text.drop opening.length
  text.take opening.length = opening && tail.length = 26 &&
    tail.all fun c => c.isDigit || c.isUpper

end RunId

end FeatureRunner
