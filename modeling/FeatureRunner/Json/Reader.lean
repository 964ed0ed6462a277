import FeatureRunner.Number.Literal
import FeatureRunner.Value.Basic

/-!
# Reading JSON texts

The reader takes the standard form of JSON texts and, beyond it, the words for the numbers that
are not finite.  A key that comes twice keeps its first place and its last value.  Lists and records
are taken as long as there is room for one more to be open.  Every step of the descent uses up fuel,
of which a text gets a multiple of its length.
-/

namespace FeatureRunner

/-- What can hold other values. -/
inductive JsonNest where
  | list
  | record
deriving DecidableEq, Repr

/-- Why a text is not read. -/
inductive JsonFault where
  | malformed
  | longNumber (digits : Nat)
  | tooDeep (nest : JsonNest)
deriving DecidableEq, Repr

namespace Json

/-- How many lists and records may be open at once.  The interpreter takes a thousand calls inside
one another; this is what is left of them for the text of a feature file, if loading the file was
called with seven calls open. -/
def nestingLimit : Nat := 988

/-- Whether a character may stand between the parts of a text. -/
def isSpace (c : Char) : Bool := c = ' ' || c = '\t' || c = '\n' || c = '\r'

/-- The text without the spaces at its beginning. -/
def skipSpaces (text : Text) : Text := text.dropWhile isSpace

/-- The number that the first four characters write in hexadecimal digits. -/
def fourDigits? : Text → Option (Nat × Text)
  | a :: b :: c :: d :: rest =>
    if [a, b, c, d].all (isDigitIn 16) then some (numberIn 16 [a, b, c, d], rest) else none
  | _ => none

/-- The character of the code unit that a text goes on from, joined with the following unit if
both make a pair.  A half without the other stays a lone half. -/
def pairUnits (unit : Nat) (rest : Text) : Char × Text :=
  let lone := (Text.character unit, rest)
  if 0xD800 ≤ unit ∧ unit ≤ 0xDBFF then
    match rest with
    | '\\' :: 'u' :: after =>
      match fourDigits? after with
      | some (low, rest) =>
        if 0xDC00 ≤ low ∧ low ≤ 0xDFFF then
          (Text.character (0x10000 + (unit - 0xD800) * 0x400 + (low - 0xDC00)), rest)
        else lone
      | none => lone
    | _ => lone
  else lone

/-- The character that an escape stands for, after its backslash. -/
def readEscape : Text → Option (Char × Text)
  | '"' :: rest => some ('"', rest)
  | '\\' :: rest => some ('\\', rest)
  | '/' :: rest => some ('/', rest)
  | 'b' :: rest => some ('\x08', rest)
  | 'f' :: rest => some ('\x0c', rest)
  | 'n' :: rest => some ('\n', rest)
  | 'r' :: rest => some ('\r', rest)
  | 't' :: rest => some ('\t', rest)
  | 'u' :: rest => (fourDigits? rest).map fun found => pairUnits found.1 found.2
  | _ => none

/-- The content of a string, after its opening quote. -/
def readString : (fuel : Nat) → Text → Option (Text × Text)
  | 0, _ => none
  | _ + 1, [] => none
  | _ + 1, '"' :: rest => some ([], rest)
  | fuel + 1, '\\' :: rest => do
    let (c, rest) ← readEscape rest
    let (content, rest) ← readString fuel rest
    return (c :: content, rest)
  | fuel + 1, c :: rest =>
    if c.toNat < 0x20 then none
    else do
      let (content, rest) ← readString fuel rest
      return (c :: content, rest)

def readDigits (text : Text) : Text × Text :=
  (text.takeWhile (isDigitIn 10), text.dropWhile (isDigitIn 10))

/-- The whole part of a number, which has no leading zeros. -/
def readWhole : Text → Option (Text × Text)
  | '0' :: rest => some (['0'], rest)
  | text =>
    let found := readDigits text
    if found.1 = [] then none else some found

/-- The digits after a point, if there are any. -/
def readFraction : Text → Text × Text
  | '.' :: rest =>
    let found := readDigits rest
    if found.1 = [] then ([], '.' :: rest) else found
  | text => ([], text)

def readExponent (text : Text) : Option Int × Text :=
  match text with
  | c :: rest =>
    if c = 'e' ∨ c = 'E' then
      let (negative, unsigned) : Bool × Text :=
        match rest with
        | '-' :: after => (true, after)
        | '+' :: after => (false, after)
        | _ => (false, rest)
      let found := readDigits unsigned
      if found.1 = [] then (none, text)
      else
        let size : Int := numberIn 10 found.1
        (some (if negative then -size else size), found.2)
    else (none, text)
  | [] => (none, text)

def readNumber (negative : Bool) (text : Text) : Except JsonFault (Value × Text) :=
  match readWhole text with
  | none => .error .malformed
  | some (whole, rest) =>
    let (fraction, rest) := readFraction rest
    let (exponent, rest) := readExponent rest
    if fraction = [] ∧ exponent.isNone then
      if whole.length > wholeNumberDigitLimit then .error (.longNumber whole.length)
      else
        let size : Int := numberIn 10 whole
        .ok (.int (if negative then -size else size), rest)
    else
      .ok (.float (.ofDecimal negative (numberIn 10 (whole ++ fraction))
        (exponent.getD 0 - fraction.length)), rest)

mutual

/-- A value at the beginning of a text, with room for the given number of open lists and
records. -/
def readValue : (fuel : Nat) → (room : Nat) → Text → Except JsonFault (Value × Text)
  | 0, _, _ => .error .malformed
  | fuel + 1, room, text =>
    match text with
    | '"' :: rest =>
      match readString fuel rest with
      | some (content, rest) => .ok (.text content, rest)
      | none => .error .malformed
    | '[' :: rest =>
      if 0 < room then
        match skipSpaces rest with
        | ']' :: rest => .ok (.list [], rest)
        | rest => (readItems fuel (room - 1) rest).map fun found => (.list found.1, found.2)
      else .error (.tooDeep .list)
    | '\x7b' :: rest =>
      if 0 < room then
        match skipSpaces rest with
        | '\x7d' :: rest => .ok (.record [], rest)
        | rest =>
          (readFields fuel (room - 1) rest).map fun found =>
            (.record (Record.ofEntries found.1), found.2)
      else .error (.tooDeep .record)
    | 'n' :: 'u' :: 'l' :: 'l' :: rest => .ok (.null, rest)
    | 't' :: 'r' :: 'u' :: 'e' :: rest => .ok (.bool true, rest)
    | 'f' :: 'a' :: 'l' :: 's' :: 'e' :: rest => .ok (.bool false, rest)
    | 'N' :: 'a' :: 'N' :: rest => .ok (.float .nan, rest)
    | 'I' :: 'n' :: 'f' :: 'i' :: 'n' :: 'i' :: 't' :: 'y' :: rest =>
      .ok (.float (.infinite false), rest)
    | '-' :: 'I' :: 'n' :: 'f' :: 'i' :: 'n' :: 'i' :: 't' :: 'y' :: rest =>
      .ok (.float (.infinite true), rest)
    | '-' :: rest => readNumber true rest
    | _ => readNumber false text

/-- The items of a list that is not empty, up to its closing bracket. -/
def readItems : (fuel : Nat) → (room : Nat) → Text → Except JsonFault (List Value × Text)
  | 0, _, _ => .error .malformed
  | fuel + 1, room, text =>
    match readValue fuel room text with
    | .error fault => .error fault
    | .ok (item, rest) =>
      match skipSpaces rest with
      | ']' :: rest => .ok ([item], rest)
      | ',' :: rest =>
        (readItems fuel room (skipSpaces rest)).map fun found => (item :: found.1, found.2)
      | _ => .error .malformed

/-- The fields of a record that is not empty, up to its closing brace. -/
def readFields : (fuel : Nat) → (room : Nat) → Text →
    Except JsonFault (List (Text × Value) × Text)
  | 0, _, _ => .error .malformed
  | fuel + 1, room, text =>
    match text with
    | '"' :: rest =>
      match readString fuel rest with
      | none => .error .malformed
      | some (key, rest) =>
        match skipSpaces rest with
        | ':' :: rest =>
          match readValue fuel room (skipSpaces rest) with
          | .error fault => .error fault
          | .ok (value, rest) =>
            match skipSpaces rest with
            | '\x7d' :: rest => .ok ([(key, value)], rest)
            | ',' :: rest =>
              (readFields fuel room (skipSpaces rest)).map fun found =>
                ((key, value) :: found.1, found.2)
            | _ => .error .malformed
        | _ => .error .malformed
    | _ => .error .malformed

end

/-- The value of a whole text, with room for the given number of open lists and records. -/
def readWithin (room : Nat) (text : Text) : Except JsonFault Value :=
  match readValue (2 * text.length + 2) room (skipSpaces text) with
  | .error fault => .error fault
  | .ok (value, rest) => if skipSpaces rest = [] then .ok value else .error .malformed

def read (text : Text) : Except JsonFault Value := readWithin nestingLimit text

end Json

end FeatureRunner
