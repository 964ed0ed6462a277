import FeatureRunner.Number.Literal
import FeatureRunner.Number.Shortest
import FeatureRunner.Text.Quoted
import FeatureRunner.Value.Basic

/-!
# How values are shown

Inside messages a value is shown as a literal, in which texts are quoted.  On its own, a text is
shown as it is and every other value as its literal.

Not every value can be shown.  A whole number of too many digits cannot, and a list or record can
be too deep: showing it takes one more call inside the others for each level.  The rows of a
feature that was not read from a file can hold such values, and so can settings and the details of
failures.  A value is looked through from left to right for the first thing that keeps it from
being shown; without one, its text is its display.
-/

namespace FeatureRunner

namespace Value

mutual

def literal : Value → Text
  | null => "None".toList
  | bool true => "True".toList
  | bool false => "False".toList
  | int number => Text.ofInt number
  | float number => number.toText
  | text content => content.quoted
  | list items => '[' :: Text.join ", ".toList (itemLiterals items) ++ [']']
  | record fields => '{' :: Text.join ", ".toList (fieldLiterals fields) ++ ['}']
  | moment shown => shown

def itemLiterals : List Value → List Text
  | [] => []
  | item :: rest => literal item :: itemLiterals rest

/-- The literals of the fields of a record: the quoted key, a colon and the value. -/
def fieldLiterals : List (Text × Value) → List Text
  | [] => []
  | (key, value) :: rest =>
    (Text.quoted key ++ ": ".toList ++ literal value) :: fieldLiterals rest

end

def display : Value → Text
  | text content => content
  | value => value.literal

end Value

/-- Why a value cannot be shown. -/
inductive ShowFlaw where
  | longNumber
  | tooDeep
deriving DecidableEq, Repr

/-- The message about a value that cannot be shown. -/
def ShowFlaw.message : ShowFlaw → Text
  | longNumber => unwritableNumberMessage
  | tooDeep => "maximum recursion depth exceeded while getting the repr of an object".toList

namespace Value

/-- How many lists and records may be open at once in a value that is shown.  The interpreter takes
a thousand calls inside one another; this is what is left of them where the text of a step is filled
in, if the run of the feature was started with seven calls open. -/
def showLimit : Nat := 984

mutual

/-- What comes first among the things that keep a value from being shown, with room for the given
number of open lists and records. -/
def showFlaw? : (room : Nat) → Value → Option ShowFlaw
  | _, int number => if isWritable number then none else some .longNumber
  | 0, list _ => some .tooDeep
  | 0, record _ => some .tooDeep
  | room + 1, list items => itemsShowFlaw? room items
  | room + 1, record fields => fieldsShowFlaw? room fields
  | _, _ => none

def itemsShowFlaw? : (room : Nat) → List Value → Option ShowFlaw
  | _, [] => none
  | room, item :: rest => (showFlaw? room item).or (itemsShowFlaw? room rest)

/-- What comes first among the things that keep the fields of a record from being shown. -/
def fieldsShowFlaw? : (room : Nat) → List (Text × Value) → Option ShowFlaw
  | _, [] => none
  | room, (_, value) :: rest => (showFlaw? room value).or (fieldsShowFlaw? room rest)

end

/-- The text of a value on its own, if it can be shown. -/
def shown (value : Value) : Except ShowFlaw Text :=
  match value.showFlaw? showLimit with
  | none => .ok value.display
  | some flaw => .error flaw

end Value

end FeatureRunner
