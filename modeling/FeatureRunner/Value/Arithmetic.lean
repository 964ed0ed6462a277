import FeatureRunner.Number.Literal
import FeatureRunner.Value.Failure

/-!
# Arithmetic of values

Adding two values, and reading a value as a whole number.
-/

namespace FeatureRunner

namespace Value

/-- A value as an addend: the truth values count as one and zero. -/
def addend? : Value → Option (Int ⊕ Double)
  | bool truth => some (.inl (if truth then 1 else 0))
  | int number => some (.inl number)
  | float number => some (.inr number)
  | _ => none

def addMixed (whole : Int) (number : Double) : Except Failure Value :=
  match Double.ofInt? whole with
  | some converted => .ok (float (converted.add number))
  | none => .error (.ofText "OverflowError" "int too large to convert to float")

/-- The failure of adding two values that have no sum. -/
def noSum (left right : Value) : Failure :=
  let joined (kind : String) := Failure.ofMessage "TypeError"
    (("can only concatenate " ++ kind ++ " (not \"").toList ++ right.kindName ++
      ("\") to " ++ kind).toList)
  match left with
  | text _ => joined "str"
  | list _ => joined "list"
  | _ => Failure.ofMessage "TypeError"
      ("unsupported operand type(s) for +: '".toList ++ left.kindName ++ "' and '".toList ++
        right.kindName ++ "'".toList)

/-- The sum of two values: numbers add up, texts and lists are joined. -/
def add (left right : Value) : Except Failure Value :=
  match left.addend?, right.addend? with
  | some (.inl a), some (.inl b) => .ok (int (a + b))
  | some (.inl a), some (.inr y) => addMixed a y
  | some (.inr x), some (.inl b) => addMixed b x
  | some (.inr x), some (.inr y) => .ok (float (x.add y))
  | _, _ =>
    match left, right with
    | text a, text b => .ok (text (a ++ b))
    | list a, list b => .ok (list (a ++ b))
    | _, _ => .error (noSum left right)

/-- The whole number written by a text that may be missing. -/
def wholeNumberOf : Option Text → Except Failure Int
  | none => .error (.ofText "TypeError"
      "int() argument must be a string, a bytes-like object or a real number, not 'NoneType'")
  | some content =>
    (readWholeNumber content).mapError fun
      | .malformed => .ofMessage "ValueError"
          ("invalid literal for int() with base 10: ".toList ++ content.quoted.take 200)
      | .tooLong digits => .ofMessage "ValueError" (longNumberMessage digits)

end Value

end FeatureRunner
