import FeatureRunner.Text.Basic

/-!
# Blank characters

The characters that count as white space, and trimming a text of them at its ends.
-/

namespace FeatureRunner

/-- The blank characters: the control characters that separate, and the space separators. -/
def blankRanges : CharRanges := [
    (0x9, 0xd), (0x1c, 0x20), (0x85, 0x85), (0xa0, 0xa0), (0x1680, 0x1680), (0x2000, 0x200a),
    (0x2028, 0x2029), (0x202f, 0x202f), (0x205f, 0x205f), (0x3000, 0x3000)]

def isBlank (c : Char) : Bool := blankRanges.has c

namespace Text

/-- The text without the blank characters at its beginning. -/
def stripLeft (text : Text) : Text := text.dropWhile isBlank

/-- The text without the blank characters at its end. -/
def stripRight (text : Text) : Text := (text.reverse.dropWhile isBlank).reverse

/-- The text without the blank characters at both ends. -/
def strip (text : Text) : Text := stripRight (stripLeft text)

@[simp]
theorem stripRight_nil : stripRight [] = [] := rfl

/-- Blank characters added at the end are the ones that trimming removes. -/
theorem stripRight_append_blank {text blanks : Text} (blank : ∀ c ∈ blanks, isBlank c) :
    stripRight (text ++ blanks) = stripRight text := by
  unfold stripRight
  rw [List.reverse_append, List.dropWhile_append_of_pos]
  intro c member
  exact blank c (List.mem_reverse.mp member)

/-- Trimming the end leaves everything up to a character that is not blank. -/
theorem stripRight_append_cons {c : Char} (solid : isBlank c = false) (text rest : Text) :
    stripRight (text ++ c :: rest) = text ++ c :: stripRight rest := by
  unfold stripRight
  rw [List.reverse_append, List.reverse_cons, List.append_assoc, List.dropWhile_append]
  split
  · next none =>
    rw [List.isEmpty_iff.mp none]
    simp [solid]
  · simp

theorem mem_of_mem_stripRight {c : Char} {text : Text} (member : c ∈ stripRight text) :
    c ∈ text := by
  have inReverse := (List.dropWhile_suffix isBlank).subset (List.mem_reverse.mp member)
  exact List.mem_reverse.mp inReverse

end Text

end FeatureRunner
