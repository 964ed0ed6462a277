import FeatureRunner.Json.Reader
import FeatureRunner.Number.Shortest

/-!
# Tagged numbers

A JSON text has one kind of number, and many readers keep it as a double.  Where numbers have to
arrive as they are, a double is told as a record with one field, whose key is a tag and whose value
is the text of the number, and so is a whole number too large for a double to count to.
-/

namespace FeatureRunner

namespace Json

def doubleTag : Text := "$float".toList

def wholeTag : Text := "$int".toList

/-- The largest whole number up to which a double can count. -/
def countingLimit : Nat := 0x20000000000000

def doubleOf (text : Text) : Value :=
  if text = "inf".toList then .float (.infinite false)
  else if text = "-inf".toList then .float (.infinite true)
  else if text = "nan".toList then .float .nan
  else
    match read text with
    | .ok (.int number) => .float (.ofFraction (number < 0) number.natAbs 1)
    | .ok value => value
    | .error _ => .null

/-- The number that a record tells, if it is a tag with a text. -/
def tagged? : Record → Option Value
  | [(key, .text content)] =>
    if key = doubleTag then some (doubleOf content)
    else if key = wholeTag then (readWholeNumber content).toOption.map .int
    else none
  | _ => none

mutual

/-- The value with numbers in place of tagged records. -/
def untag : Value → Value
  | .list items => .list (untagItems items)
  | .record fields =>
    match tagged? fields with
    | some value => value
    | none => .record (untagFields fields)
  | value => value

/-- The items of a list with numbers in place of tagged records. -/
def untagItems : List Value → List Value
  | [] => []
  | item :: rest => untag item :: untagItems rest

/-- The fields of a record with numbers in place of tagged records. -/
def untagFields : List (Text × Value) → List (Text × Value)
  | [] => []
  | (key, value) :: rest => (key, untag value) :: untagFields rest

end

mutual

/-- The value with tagged records in place of numbers that need them. -/
def tag : Value → Value
  | .int number =>
    if number.natAbs > countingLimit then .record [(wholeTag, .text (Text.ofInt number))]
    else .int number
  | .float number => .record [(doubleTag, .text number.toText)]
  | .list items => .list (tagItems items)
  | .record fields => .record (tagFields fields)
  | .moment shown => .text shown
  | value => value

/-- The items of a list with tagged records in place of numbers that need them. -/
def tagItems : List Value → List Value
  | [] => []
  | item :: rest => tag item :: tagItems rest

/-- The fields of a record with tagged records in place of numbers that need them. -/
def tagFields : List (Text × Value) → List (Text × Value)
  | [] => []
  | (key, value) :: rest => (key, tag value) :: tagFields rest

end

end Json

end FeatureRunner
