import FeatureRunner.Text.Basic

/-!
# Lines of a text

A text is cut into lines at every line break.  A carriage return directly followed by a line
feed is one break, and a break at the very end starts no further line.
-/

namespace FeatureRunner

/-- Whether a character ends a line: the feeds and returns, the three information separators,
and the next-line, line and paragraph separators. -/
def isLineBreak (c : Char) : Bool :=
  c.toNat ∈ [0x0a, 0x0b, 0x0c, 0x0d, 0x1c, 0x1d, 0x1e, 0x85, 0x2028, 0x2029]

namespace Text

/-- The lines of a text, without their line breaks. -/
def lines : Text → List Text
  | [] => []
  | '\r' :: '\n' :: rest => [] :: lines rest
  | c :: rest =>
    if isLineBreak c then [] :: lines rest
    else
      match lines rest with
      | [] => [[c]]
      | first :: others => (c :: first) :: others

theorem not_isLineBreak_of_mem_lines {text line : Text} (isLine : line ∈ lines text) :
    ∀ c ∈ line, isLineBreak c = false := by
  fun_induction lines text generalizing line with
  | case1 => simp at isLine
  | case2 rest ih =>
    rcases List.mem_cons.mp isLine with rfl | later
    · simp
    · exact ih later
  | case3 c rest _ isBreak ih =>
    rcases List.mem_cons.mp isLine with rfl | later
    · simp
    · exact ih later
  | case4 c rest _ noBreak empty ih =>
    rcases List.mem_cons.mp isLine with rfl | later
    · simpa using noBreak
    · simp at later
  | case5 c rest _ noBreak first others parts ih =>
    rcases List.mem_cons.mp isLine with rfl | later
    · intro d member
      rcases List.mem_cons.mp member with rfl | inFirst
      · simpa using noBreak
      · exact ih (by simp [parts]) d inFirst
    · exact ih (by simp [parts, later])

end Text

end FeatureRunner
