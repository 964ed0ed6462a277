import FeatureRunner.Text.Printable

/-!
# Quoted texts

A text is shown between quotes: apostrophes, or quotation marks if it holds an apostrophe and no
quotation mark.  The quote in use and the backslash are written after a backslash, line feed,
carriage return and tab by a letter, and every other unprintable character by its number in
hexadecimal digits, of which there are two, four or eight.  A lone half is written by its code
unit.
-/

namespace FeatureRunner

namespace Text

/-- The hexadecimal digits of a number, at least as many as the given width. -/
def hexadecimal (width n : Nat) : Text :=
  let digits := Nat.toDigits 16 n
  List.replicate (width - digits.length) '0' ++ digits

/-- A character as it is shown between the given quotes. -/
def quotedChar (quote c : Char) : Text :=
  if c = quote ∨ c = '\\' then ['\\', c]
  else if c = '\n' then ['\\', 'n']
  else if c = '\r' then ['\\', 'r']
  else if c = '\t' then ['\\', 't']
  else if isPrintable c then [c]
  else if c.toNat < 0x100 then '\\' :: 'x' :: hexadecimal 2 c.toNat
  else if c.toNat < 0x10000 then '\\' :: 'u' :: hexadecimal 4 c.toNat
  else if isLoneHalf c then '\\' :: 'u' :: hexadecimal 4 (halfUnit c)
  else '\\' :: 'U' :: hexadecimal 8 c.toNat

def quoteFor (text : Text) : Char :=
  if '\'' ∈ text ∧ '"' ∉ text then '"' else '\''

def quoted (text : Text) : Text :=
  let quote := quoteFor text
  quote :: text.flatMap (quotedChar quote) ++ [quote]

end Text

end FeatureRunner
