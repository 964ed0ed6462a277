import FeatureRunner.Json.Writer

/-!
# JSON texts of one line

A value written without line feeds and blanks, in ASCII characters alone, with the fields of
records in their own order.  Other characters are written as one or two code units.
-/

namespace FeatureRunner

namespace Json

def writtenUnit (unit : Nat) : Text := '\\' :: 'u' :: Text.hexadecimal 4 unit

/-- A character inside a string of ASCII characters. -/
def asciiChar (c : Char) : Text :=
  let n := c.toNat
  if n < 0x80 then writtenChar c
  else if n < 0x10000 then writtenUnit n
  else writtenUnit (0xd800 + (n - 0x10000) / 0x400) ++ writtenUnit (0xdc00 + (n - 0x10000) % 0x400)

def asciiString (content : Text) : Text := '"' :: content.flatMap asciiChar ++ ['"']

mutual

def writeLine : Value → Text
  | .null => "null".toList
  | .bool true => "true".toList
  | .bool false => "false".toList
  | .int number => Text.ofInt number
  | .float number => writtenDouble number
  | .text content => asciiString content
  | .list items => '[' :: Text.join [','] (writeLineItems items) ++ [']']
  | .record fields => '\x7b' :: Text.join [','] (writeLineFields fields) ++ ['\x7d']
  | .moment shown => asciiString shown

def writeLineItems : List Value → List Text
  | [] => []
  | item :: rest => writeLine item :: writeLineItems rest

def writeLineFields : List (Text × Value) → List Text
  | [] => []
  | (key, value) :: rest =>
    (asciiString key ++ ':' :: writeLine value) :: writeLineFields rest

end

end Json

end FeatureRunner
