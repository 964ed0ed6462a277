import FeatureRunner.Text.Lines

/-!
# Where a text is cut into lines

A text is cut into lines at its line breaks.  A break is a single character, or a carriage return
together with the line feed after it; a carriage return alone is a break only if no line feed
follows.  After the last break there is a further line only if something is left.  Every text is cut
in exactly one way.
-/

namespace FeatureRunner.Text

/-- Whether some characters are the whole break at the end of a line, ahead of a rest. -/
def IsBreakAhead (ending rest : Text) : Prop :=
  ending = ['\r', '\n'] ∨
    ∃ c, ending = [c] ∧ isLineBreak c = true ∧ ¬ (c = '\r' ∧ rest.head? = some '\n')

/-- The ways to cut a text into lines. -/
inductive CutInto : Text → List Text → Prop where
  | nothing : CutInto [] []
  | unended {line : Text} (filled : line ≠ [])
      (unbroken : ∀ c ∈ line, isLineBreak c = false) : CutInto line [line]
  | ended {line ending rest : Text} {later : List Text}
      (unbroken : ∀ c ∈ line, isLineBreak c = false) (ends : IsBreakAhead ending rest)
      (cut : CutInto rest later) : CutInto (line ++ (ending ++ rest)) (line :: later)

theorem lines_eq_nil_iff {text : Text} : lines text = [] ↔ text = [] := by
  constructor
  · intro none
    unfold lines at none
    split at none
    · rfl
    · cases none
    · split at none
      · cases none
      · split at none <;> cases none
  · rintro rfl
    rfl

/-- A character that ends no line belongs to the first line. -/
theorem lines_cons_of_unbroken {c : Char} (unbroken : isLineBreak c = false) (rest : Text) :
    lines (c :: rest) =
      match lines rest with
      | [] => [[c]]
      | first :: others => (c :: first) :: others := by
  rw [lines]
  · exact if_neg (by simp [unbroken])
  · rintro _ rfl
    exact absurd unbroken (by decide)

theorem lines_of_isBreakAhead {ending rest : Text} (ends : IsBreakAhead ending rest) :
    lines (ending ++ rest) = [] :: lines rest := by
  rcases ends with rfl | ⟨c, rfl, isBreak, alone⟩
  · rw [List.cons_append, List.cons_append, List.nil_append, lines]
  · rw [List.cons_append, List.nil_append, lines]
    · rw [if_pos isBreak]
    · rintro rest' rfl rfl
      exact alone ⟨rfl, rfl⟩

theorem lines_of_unbroken {line : Text} (filled : line ≠ [])
    (unbroken : ∀ c ∈ line, isLineBreak c = false) : lines line = [line] := by
  induction line with
  | nil => exact absurd rfl filled
  | cons c rest ih =>
      obtain ⟨first, others⟩ := List.forall_mem_cons.mp unbroken
      rw [lines_cons_of_unbroken first]
      cases rest with
      | nil => rfl
      | cons d rest => rw [ih (List.cons_ne_nil d rest) others]

theorem lines_append_ended {line ending rest : Text}
    (unbroken : ∀ c ∈ line, isLineBreak c = false) (ends : IsBreakAhead ending rest) :
    lines (line ++ (ending ++ rest)) = line :: lines rest := by
  induction line with
  | nil => exact lines_of_isBreakAhead ends
  | cons c line ih =>
      obtain ⟨first, others⟩ := List.forall_mem_cons.mp unbroken
      rw [List.cons_append, lines_cons_of_unbroken first, ih others]

/-- A break at the beginning ends an empty line. -/
theorem CutInto.atBreak {ending rest : Text} {later : List Text} (ends : IsBreakAhead ending rest)
    (cut : CutInto rest later) : CutInto (ending ++ rest) ([] :: later) := by
  have afterNothing : CutInto ([] ++ (ending ++ rest)) ([] :: later) :=
    .ended (List.forall_mem_nil _) ends cut
  exact afterNothing

/-- One more character at the beginning makes the first line longer. -/
theorem CutInto.cons {c : Char} {text first : Text} {others : List Text}
    (unbroken : isLineBreak c = false) (cut : CutInto text (first :: others)) :
    CutInto (c :: text) ((c :: first) :: others) := by
  cases cut with
  | unended filled rest =>
      exact .unended (List.cons_ne_nil c _) (List.forall_mem_cons.mpr ⟨unbroken, rest⟩)
  | @ended _ ending rest _ others ends later =>
      have longer : CutInto ((c :: first) ++ (ending ++ rest)) ((c :: first) :: _) :=
        .ended (List.forall_mem_cons.mpr ⟨unbroken, others⟩) ends later
      exact longer

theorem cutInto_lines (text : Text) : CutInto text (lines text) := by
  fun_induction lines text with
  | case1 => exact .nothing
  | case2 rest ih => exact ih.atBreak (.inl rfl)
  | case3 c rest notPair isBreak ih =>
      refine ih.atBreak (.inr ⟨c, rfl, isBreak, ?_⟩)
      rintro ⟨rfl, feed⟩
      obtain ⟨tail, rfl⟩ := List.head?_eq_some_iff.mp feed
      exact notPair tail rfl rfl
  | case4 c rest _ noBreak none ih =>
      obtain rfl := lines_eq_nil_iff.mp none
      exact .unended (List.cons_ne_nil c []) (by simpa using noBreak)
  | case5 c rest _ noBreak first others parts ih =>
      rw [parts] at ih
      exact ih.cons (by simpa using noBreak)

/-- The lines of a text are the only ones that it is cut into. -/
theorem cutInto_iff {text : Text} {parts : List Text} :
    CutInto text parts ↔ parts = lines text := by
  constructor
  · intro cut
    induction cut with
    | nothing => rfl
    | unended filled unbroken => rw [lines_of_unbroken filled unbroken]
    | ended unbroken ends _ ih => rw [lines_append_ended unbroken ends, ih]
  · rintro rfl
    exact cutInto_lines text

end FeatureRunner.Text
