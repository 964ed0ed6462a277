/-!
# Texts

A text is the list of its characters, so that every position and every length counts
characters.  This file holds the few general operations on texts that the other files share,
and sets of characters given by ranges of character numbers.

A half of a surrogate pair is no character, and still a text can hold one without the other.  The
last 2048 characters, which are left to private use, hold the places of such lone halves, one for
each.  They are not taken to stand for themselves anywhere.
-/

namespace FeatureRunner

abbrev Text := List Char

/-- Comparing two texts tells whether they are equal. -/
instance Text.instLawfulBEq : LawfulBEq Text := inferInstance

namespace Text

/-- The parts in order, with the separator between each two neighbours. -/
def join (separator : Text) : List Text → Text
  | [] => []
  | [part] => part
  | part :: next :: others => part ++ separator ++ join separator (next :: others)

/-- The parts of a text between the occurrences of a character.  There is always one part more
than there are occurrences. -/
def splitAt (separator : Char) : Text → List Text
  | [] => [[]]
  | c :: rest =>
    if c = separator then [] :: splitAt separator rest
    else
      match splitAt separator rest with
      | [] => [[c]]
      | first :: others => (c :: first) :: others

def ofNat (n : Nat) : Text := Nat.toDigits 10 n

/-- The decimal digits of an integer, after a minus sign if it is negative. -/
def ofInt (i : Int) : Text :=
  if i < 0 then '-' :: ofNat i.natAbs else ofNat i.natAbs

theorem splitAt_ne_nil (separator : Char) (text : Text) : splitAt separator text ≠ [] := by
  cases text with
  | nil => simp [splitAt]
  | cons c rest =>
    unfold splitAt
    split
    · simp
    · split <;> simp

/-- The character that holds the place of the lone half with the given code unit. -/
def loneHalf (unit : Nat) : Char := Char.ofNat (0x10f800 + (unit - 0xd800))

def isLoneHalf (c : Char) : Bool := 0x10f800 ≤ c.toNat

/-- The code unit of the half whose place a character holds. -/
def halfUnit (c : Char) : Nat := c.toNat - 0x10f800 + 0xd800

/-- The character with the given number.  The number of a half stands for the lone half.  Each of
the last 2048 characters, none of which has a meaning of its own and whose places the halves hold,
is not told apart from the one 2048 places ahead of it. -/
def character (number : Nat) : Char :=
  if 0xd800 ≤ number ∧ number ≤ 0xdfff then loneHalf number
  else if number < 0x10f800 then Char.ofNat number
  else Char.ofNat (0x10f000 + number % 0x800)

/-- The text of a string from outside. -/
def ofString (string : String) : Text := string.toList.map fun c => character c.toNat

end Text

/-- A set of characters, as a list of inclusive ranges of character numbers in ascending order. -/
abbrev CharRanges := List (Nat × Nat)

/-- Whether a character lies in one of the ranges.  No range after one that begins beyond the
character can hold it. -/
def CharRanges.has : CharRanges → Char → Bool
  | [], _ => false
  | (first, last) :: later, c => first ≤ c.toNat && (c.toNat ≤ last || has later c)

end FeatureRunner
