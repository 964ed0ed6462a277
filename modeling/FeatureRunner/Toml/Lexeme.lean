import FeatureRunner.Number.Literal
import FeatureRunner.Value.Basic

/-!
# Small parts of TOML texts

Spaces, comments, keys and strings.  Every reader gives what it read and the rest of the text, or
nothing if the text does not go on as it must.
-/

namespace FeatureRunner

namespace Toml

/-- The text without the blanks at its beginning. -/
def skipBlanks (text : Text) : Text := text.dropWhile fun c => c = ' ' || c = '\t'

/-- The text without the blanks and line feeds at its beginning. -/
def skipBlankLines (text : Text) : Text :=
  text.dropWhile fun c => c = ' ' || c = '\t' || c = '\n'

/-- Whether a character is a control character that may not stand in a line. -/
def isForbidden (c : Char) : Bool := (c.toNat < 0x20 && c != '\t') || c = '\x7f'

/-- Whether a character is a control character that may not stand in several lines. -/
def isForbiddenInLines (c : Char) : Bool := isForbidden c && c != '\n'

/-- The text after a comment, if one begins it. -/
def skipComment : Text → Option Text
  | '#' :: rest =>
    if (rest.takeWhile (· ≠ '\n')).any isForbidden then none
    else some (rest.dropWhile (· ≠ '\n'))
  | text => some text

/-- The text after blanks, line feeds and comments, a given number of times at most. -/
def skipFiller : (fuel : Nat) → Text → Option Text
  | 0, text => some text
  | fuel + 1, text =>
    match skipBlankLines text with
    | '#' :: rest => (skipComment ('#' :: rest)).bind (skipFiller fuel)
    | rest => some rest

/-- Whether a character may stand in a key without quotes. -/
def isBareKeyChar (c : Char) : Bool := c.isAlphanum || c = '-' || c = '_'

/-- The character of the hexadecimal digits that begin a text. -/
def hexChar? (count : Nat) (text : Text) : Option (Char × Text) :=
  let digits := text.take count
  if digits.length = count ∧ digits.all (isDigitIn 16) ∧ (numberIn 16 digits).isValidChar then
    some (Text.character (numberIn 16 digits), text.drop count)
  else none

/-- The text after an escaped end of line, after the backslash. -/
def skipLineEnd (text : Text) : Option Text :=
  match text with
  | '\n' :: rest => some (skipBlankLines rest)
  | _ =>
    match skipBlanks text with
    | [] => some []
    | '\n' :: rest => some (skipBlankLines rest)
    | _ => none

/-- The characters that an escape stands for, after its backslash.  In strings of several lines
an escaped end of line stands for nothing. -/
def readEscape (multiLine : Bool) : Text → Option (Text × Text)
  | 'b' :: rest => some (['\x08'], rest)
  | 't' :: rest => some (['\t'], rest)
  | 'n' :: rest => some (['\n'], rest)
  | 'f' :: rest => some (['\x0c'], rest)
  | 'r' :: rest => some (['\r'], rest)
  | '"' :: rest => some (['"'], rest)
  | '\\' :: rest => some (['\\'], rest)
  | 'u' :: rest => (hexChar? 4 rest).map fun found => ([found.1], found.2)
  | 'U' :: rest => (hexChar? 8 rest).map fun found => ([found.1], found.2)
  | c :: rest =>
    if multiLine ∧ (c = ' ' ∨ c = '\t' ∨ c = '\n') then
      (skipLineEnd (c :: rest)).map fun after => ([], after)
    else none
  | [] => none

/-- The content of a string with escapes, after its opening quotes. -/
def readEscaped (multiLine : Bool) : (fuel : Nat) → Text → Option (Text × Text)
  | 0, _ => none
  | _ + 1, [] => none
  | fuel + 1, c :: rest =>
    if c = '"' ∧ !multiLine then some ([], rest)
    else if c = '"' ∧ rest.take 2 = ['"', '"'] then some ([], rest.drop 2)
    else if c = '\\' then do
      let (first, rest) ← readEscape multiLine rest
      let (others, rest) ← readEscaped multiLine fuel rest
      return (first ++ others, rest)
    else if c ≠ '"' ∧ (if multiLine then isForbiddenInLines c else isForbidden c) then none
    else do
      let (others, rest) ← readEscaped multiLine fuel rest
      return (c :: others, rest)

/-- The content of a string without escapes, after its opening apostrophe. -/
def readVerbatim (text : Text) : Option (Text × Text) :=
  let content := text.takeWhile (· ≠ '\'')
  match text.dropWhile (· ≠ '\'') with
  | _ :: rest => if content.any isForbidden then none else some (content, rest)
  | [] => none

/-- The content of a string of several lines without escapes, after its opening apostrophes. -/
def readVerbatimLines : Text → Option (Text × Text)
  | [] => none
  | '\'' :: '\'' :: '\'' :: rest => some ([], rest)
  | c :: rest =>
    if isForbiddenInLines c then none
    else (readVerbatimLines rest).map fun found => (c :: found.1, found.2)

/-- Adds up to two further quotes that directly follow the closing ones. -/
def addQuotes (quote : Char) (found : Text × Text) : Text × Text :=
  match found.2 with
  | a :: b :: rest =>
    if a = quote ∧ b = quote then (found.1 ++ [quote, quote], rest)
    else if a = quote then (found.1 ++ [quote], b :: rest)
    else found
  | [a] => if a = quote then (found.1 ++ [quote], []) else found
  | [] => found

/-- The text after a line feed that directly follows opening quotes. -/
def skipFirstLineFeed : Text → Text
  | '\n' :: rest => rest
  | text => text

/-- A string of one line in a text that begins with a quote of either kind. -/
def readLineString : Text → Option (Text × Text)
  | '"' :: rest => readEscaped false (rest.length + 1) rest
  | '\'' :: rest => readVerbatim rest
  | _ => none

/-- A string in a text that begins with a quote of either kind. -/
def readString : Text → Option (Text × Text)
  | '"' :: '"' :: '"' :: rest =>
    let rest := skipFirstLineFeed rest
    (readEscaped true (rest.length + 1) rest).map (addQuotes '"')
  | '\'' :: '\'' :: '\'' :: rest =>
    (readVerbatimLines (skipFirstLineFeed rest)).map (addQuotes '\'')
  | text => readLineString text

abbrev Key := List Text

def readKeyPart (text : Text) : Option (Text × Text) :=
  let bare := text.takeWhile isBareKeyChar
  if bare = [] then readLineString text
  else some (bare, text.dropWhile isBareKeyChar)

/-- A key, and the text after the blanks that follow it. -/
def readKey : (fuel : Nat) → Text → Option (Key × Text)
  | 0, _ => none
  | fuel + 1, text => do
    let (part, rest) ← readKeyPart text
    match skipBlanks rest with
    | '.' :: rest =>
      let (others, rest) ← readKey fuel (skipBlanks rest)
      return (part :: others, rest)
    | rest => return ([part], rest)

end Toml

end FeatureRunner
