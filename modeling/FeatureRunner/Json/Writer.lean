import FeatureRunner.Number.Shortest
import FeatureRunner.Text.Quoted
import FeatureRunner.Value.Basic

/-!
# Writing JSON texts

The canonical text of a value: the fields of every record sorted by their keys, one item or
field on each line, two spaces of indentation for each level, and no line for an empty list or
record.  Inside strings only quotes, backslashes and control characters are escaped.
-/

namespace FeatureRunner

namespace Json

def writtenChar (c : Char) : Text :=
  if c = '"' then ['\\', '"']
  else if c = '\\' then ['\\', '\\']
  else if c = '\n' then ['\\', 'n']
  else if c = '\r' then ['\\', 'r']
  else if c = '\t' then ['\\', 't']
  else if c = '\x08' then ['\\', 'b']
  else if c = '\x0c' then ['\\', 'f']
  else if c.toNat < 0x20 then '\\' :: 'u' :: Text.hexadecimal 4 c.toNat
  else [c]

def writtenString (content : Text) : Text := '"' :: content.flatMap writtenChar ++ ['"']

/-- A double; those that are not finite have words. -/
def writtenDouble : Double → Text
  | .nan => "NaN".toList
  | .infinite false => "Infinity".toList
  | .infinite true => "-Infinity".toList
  | number => number.toText

/-- A line feed and the indentation of a level. -/
def newline (level : Nat) : Text := '\n' :: List.replicate (2 * level) ' '

/-- A list or record between its brackets, whose parts are already written. -/
def bracketed (opening closing : Char) (level : Nat) : List Text → Text
  | [] => [opening, closing]
  | parts =>
    opening :: newline (level + 1) ++ Text.join (',' :: newline (level + 1)) parts ++
      newline level ++ [closing]

/-- Fields in the order of their keys, after a field has been put in its place. -/
def insertField {α : Type} (field : Text × α) : List (Text × α) → List (Text × α)
  | [] => [field]
  | other :: rest =>
    if other.1 < field.1 then other :: insertField field rest else field :: other :: rest

def sortFields {α : Type} (fields : List (Text × α)) : List (Text × α) :=
  fields.foldr insertField []

def writtenField (field : Text × Text) : Text := writtenString field.1 ++ ": ".toList ++ field.2

mutual

def writeAt (level : Nat) : Value → Text
  | .null => "null".toList
  | .bool true => "true".toList
  | .bool false => "false".toList
  | .int number => Text.ofInt number
  | .float number => writtenDouble number
  | .text content => writtenString content
  | .list items => bracketed '[' ']' level (writeItems (level + 1) items)
  | .record fields =>
    bracketed '\x7b' '\x7d' level
      ((sortFields (writeFields (level + 1) fields)).map writtenField)
  | .moment shown => writtenString shown

/-- The items of a list, each at a level of indentation. -/
def writeItems (level : Nat) : List Value → List Text
  | [] => []
  | item :: rest => writeAt level item :: writeItems level rest

/-- The fields of a record with their values written at a level of indentation. -/
def writeFields (level : Nat) : List (Text × Value) → List (Text × Text)
  | [] => []
  | (key, value) :: rest => (key, writeAt level value) :: writeFields level rest

end

def write (value : Value) : Text := writeAt 0 value

end Json

end FeatureRunner
