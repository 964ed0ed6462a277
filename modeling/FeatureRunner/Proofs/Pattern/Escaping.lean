import FeatureRunner.Pattern.Basic

/-!
# Escaped texts read back

A literal text is escaped so that none of its characters means anything but itself to the reader of
pattern sources: characters that could mean something are written after a backslash, and after a
backslash none of them is a letter or a digit.  This file proves that the source of a literal
pattern reads back, for every text, as the start of a line, the characters of the text one by one,
and an optional colon.
-/

namespace FeatureRunner

open PatternExpr

namespace Pattern

/-- How the source of a literal pattern writes a character. -/
def escapeChar (c : Char) : Text := if c ∈ specialChars then ['\\', c] else [c]

theorem escape_cons (c : Char) (text : Text) : escape (c :: text) = escapeChar c ++ escape text :=
  List.flatMap_cons

theorem length_escape (text : Text) : text.length ≤ (escape text).length := by
  induction text with
  | nil => exact Nat.zero_le _
  | cons c text ih =>
      have written : 1 ≤ (escapeChar c).length := by
        unfold escapeChar
        split <;> simp
      rw [escape_cons, List.length_append, List.length_cons]
      omega

end Pattern

open Pattern

namespace PatternReader

theorem readEscape_of_special {c : Char} (special : c ∈ specialChars) (rest : Text) :
    readEscape (c :: rest) = some (.char c, rest) := by
  have listed : specialChars = ['(', ')', '[', ']', '\x7b', '\x7d', '?', '*', '+', '-', '|', '^',
      '$', '\\', '.', '&', '~', '#', ' ', '\t', '\n', '\r', '\x0b', '\x0c'] := by
    decide
  rw [listed] at special
  simp only [List.mem_cons, List.not_mem_nil, or_false] at special
  rcases special with rfl | rfl | rfl | rfl | rfl | rfl | rfl | rfl | rfl | rfl | rfl | rfl |
    rfl | rfl | rfl | rfl | rfl | rfl | rfl | rfl | rfl | rfl | rfl | rfl <;> rfl

theorem readQuantifier_of_not_special {c : Char} (plain : c ∉ specialChars) (rest : Text) :
    readQuantifier (c :: rest) = none := by
  unfold readQuantifier
  split
  · next same => exact absurd ((List.cons.inj same).1 ▸ plain) (by decide)
  · next same => exact absurd ((List.cons.inj same).1 ▸ plain) (by decide)
  · next same => exact absurd ((List.cons.inj same).1 ▸ plain) (by decide)
  · next same => exact absurd ((List.cons.inj same).1 ▸ plain) (by decide)
  · rfl

/-- What is left of an escaped text, with the optional colon after it, begins with no repetition. -/
theorem readQuantifier_escape (content : Text) :
    readQuantifier (escape content ++ ":?".toList) = none := by
  cases content with
  | nil => rfl
  | cons c content =>
      rw [escape_cons, escapeChar]
      split
      · rfl
      · next plain => exact readQuantifier_of_not_special plain _

theorem readRepetition_of_unquantified {source : Text} (unquantified : readQuantifier source = none)
    (repeatable : Bool) (atom : List PatternExpr) :
    readRepetition repeatable atom source = some (atom, source) := by
  simp [readRepetition, unquantified]

theorem readAtom_escapeChar (fuel groups : Nat) (c : Char) (rest : Text) :
    readAtom (fuel + 1) groups (escapeChar c ++ rest) = some ([.char c], groups, rest) := by
  unfold escapeChar
  split
  · next special =>
    rw [List.cons_append, List.cons_append, List.nil_append, readAtom,
      readEscape_of_special special]
    rfl
  · next plain =>
    rw [List.cons_append, List.nil_append, readAtom]
    · simp [readQuantifier_of_not_special plain]
    all_goals
      rintro rfl
      exact plain (by decide)

/-- One part of a sequence, if nothing repeats it. -/
theorem readParts_of_atom {fuel groups : Nat} {c : Char} {rest after : Text}
    {atom : List PatternExpr} (goesOn : ¬ (c = '|' ∨ c = ')'))
    (atomic : readAtom fuel groups (c :: rest) = some (atom, groups, after))
    (unquantified : readQuantifier after = none) :
    readParts (fuel + 1) groups (c :: rest) =
      (readParts fuel groups after).map fun found => (atom ++ found.1, found.2) := by
  rw [readParts, if_neg goesOn, atomic]
  simp only [Option.bind_eq_bind, Option.bind_some, readRepetition_of_unquantified unquantified]
  cases readParts fuel groups after <;> rfl

theorem exists_escapeChar_eq_cons (c : Char) :
    ∃ first rest, escapeChar c = first :: rest ∧ ¬ (first = '|' ∨ first = ')') := by
  unfold escapeChar
  split
  · exact ⟨'\\', [c], rfl, by decide⟩
  · next plain =>
    refine ⟨c, [], rfl, ?_⟩
    rintro (rfl | rfl) <;> exact plain (by decide)

/-- The parts of an escaped text and the optional colon after it. -/
theorem readParts_escape (groups : Nat) {fuel : Nat} {content : Text}
    (enough : content.length + 3 ≤ fuel) :
    readParts fuel groups (escape content ++ ":?".toList) =
      some (content.map .char ++ [.iterate 0 (some 1) true (.char ':')], groups, []) := by
  induction content generalizing fuel with
  | nil =>
      obtain ⟨fuel, rfl⟩ := Nat.exists_eq_add_of_le' enough
      have repeatable : beginsWithPlaceTest [':', '?'] = false := rfl
      simp [escape, readParts, readAtom, readQuantifier, readRepetition,
        PatternExpr.sequence, repeatable]
  | cons c content ih =>
      obtain ⟨fuel, rfl⟩ := Nat.exists_eq_add_of_le' enough
      -- A backslash or a plain character comes first, so the sequence does not end here.
      obtain ⟨first, rest, written, goesOn⟩ := exists_escapeChar_eq_cons c
      have atomic := readAtom_escapeChar (fuel + content.length + 2) groups c
        (escape content ++ ":?".toList)
      rw [written, List.cons_append] at atomic
      rw [escape_cons, List.append_assoc, written, List.cons_append, List.length_cons,
        show fuel + (content.length + 1 + 3) = fuel + content.length + 2 + 1 + 1 by omega,
        readParts_of_atom goesOn atomic (readQuantifier_escape content), ih (by omega)]
      rfl

/-- The source of a literal pattern reads back as its characters. -/
theorem read_literal (content : Text) :
    read ('^' :: escape content ++ ":?".toList) =
      some (.sequence (.lineStart :: content.map .char ++
        [.iterate 0 (some 1) true (.char ':')]), 0) := by
  have long := length_escape content
  have enough : content.length + 3 ≤ 5 * (escape content).length + 18 := by omega
  have start : readAtom (5 * (escape content).length + 18) 0
      ('^' :: (escape content ++ ":?".toList)) =
        some ([.lineStart], 0, escape content ++ ":?".toList) := by rw [readAtom]
  have parts := readParts_of_atom (by decide) start (readQuantifier_escape content)
  rw [readParts_escape 0 enough] at parts
  rw [read, List.cons_append]
  have fuel : 5 * ('^' :: (escape content ++ ":?".toList)).length + 5 =
      5 * (escape content).length + 18 + 1 + 1 := by
    simp
    omega
  rw [fuel, readAlternatives, parts]
  rfl

end PatternReader

end FeatureRunner
