import FeatureRunner.Text.Basic
import Mathlib.Data.List.TakeWhile

/-!
# Cutting a text at a character

A text is cut at every occurrence of a character.  The first part is what comes ahead of the first
occurrence.  A text put together from parts that are each ended by the character is cut at the ends
of these parts, and wherever the character occurs in a part itself.
-/

namespace FeatureRunner.Text

variable {separator : Char} {text : Text}

/-- What comes ahead of the first occurrence of a character. -/
def firstPart (separator : Char) (text : Text) : Text := text.takeWhile (· ≠ separator)

/-- The parts of a text after the first one. -/
def laterParts (separator : Char) (text : Text) : List Text := (splitAt separator text).tail

theorem splitAt_cons_self (separator : Char) (text : Text) :
    splitAt separator (separator :: text) = [] :: splitAt separator text := by
  rw [splitAt, if_pos rfl]

theorem splitAt_eq (separator : Char) (text : Text) :
    splitAt separator text = firstPart separator text :: laterParts separator text := by
  induction text with
  | nil => rfl
  | cons c rest ih =>
      by_cases same : c = separator
      · subst same
        simp [splitAt_cons_self, firstPart, laterParts]
      · rw [laterParts, splitAt, if_neg same]
        cases parts : splitAt separator rest with
        | nil => exact absurd parts (splitAt_ne_nil separator rest)
        | cons first others =>
            rw [parts] at ih
            rw [(List.cons.inj ih).1]
            simp [firstPart, same]

theorem splitAt_cons_of_ne {c : Char} (other : c ≠ separator) (text : Text) :
    splitAt separator (c :: text) =
      (c :: firstPart separator text) :: laterParts separator text := by
  rw [splitAt, if_neg other, splitAt_eq]

theorem firstPart_append (separator : Char) {front : Text} (unseparated : separator ∉ front)
    (text : Text) : firstPart separator (front ++ text) = front ++ firstPart separator text := by
  refine List.takeWhile_append_of_pos fun c member => decide_eq_true fun same => ?_
  exact unseparated (same ▸ member)

theorem laterParts_append (separator : Char) {front : Text} (unseparated : separator ∉ front)
    (text : Text) : laterParts separator (front ++ text) = laterParts separator text := by
  induction front with
  | nil => rfl
  | cons c front ih =>
      obtain ⟨other, others⟩ := not_or.mp (List.mem_cons.not.mp unseparated)
      rw [← ih others, List.cons_append, laterParts, splitAt_cons_of_ne (Ne.symm other)]
      rfl

theorem firstPart_of_not_mem (unseparated : separator ∉ text) :
    firstPart separator text = text := by
  have first := firstPart_append separator unseparated []
  rw [List.append_nil] at first
  exact first.trans (List.append_nil text)

theorem laterParts_of_not_mem (unseparated : separator ∉ text) :
    laterParts separator text = [] := by
  have later := laterParts_append separator unseparated []
  rwa [List.append_nil] at later

theorem splitAt_of_not_mem (unseparated : separator ∉ text) : splitAt separator text = [text] := by
  rw [splitAt_eq, firstPart_of_not_mem unseparated, laterParts_of_not_mem unseparated]

theorem not_mem_of_mem_splitAt {part : Text} (isPart : part ∈ splitAt separator text) :
    separator ∉ part := by
  induction text generalizing part with
  | nil => simp_all [splitAt]
  | cons c rest ih =>
      by_cases same : c = separator
      · subst same
        rw [splitAt_cons_self] at isPart
        rcases List.mem_cons.mp isPart with rfl | later
        · exact List.not_mem_nil
        · exact ih later
      · rw [splitAt_cons_of_ne same] at isPart
        have parts := splitAt_eq separator rest
        rcases List.mem_cons.mp isPart with rfl | later
        · have ahead := ih (parts ▸ List.mem_cons_self)
          exact List.mem_cons.not.mpr (not_or.mpr ⟨Ne.symm same, ahead⟩)
        · exact ih (parts ▸ List.mem_cons_of_mem _ later)

theorem splitAt_eq_singleton_iff : splitAt separator text = [text] ↔ separator ∉ text := by
  refine ⟨fun single => ?_, splitAt_of_not_mem⟩
  exact not_mem_of_mem_splitAt (single ▸ List.mem_singleton_self text)

theorem splitAt_append_cons (separator : Char) (first second : Text) :
    splitAt separator (first ++ separator :: second) =
      splitAt separator first ++ splitAt separator second := by
  induction first with
  | nil => exact splitAt_cons_self separator second
  | cons c rest ih =>
      by_cases same : c = separator
      · subst same
        rw [List.cons_append, splitAt_cons_self, splitAt_cons_self, ih, List.cons_append]
      · rw [splitAt_eq, splitAt_eq separator rest, List.cons_append] at ih
        obtain ⟨sameFirst, sameLater⟩ := List.cons.inj ih
        rw [List.cons_append, splitAt_cons_of_ne same, splitAt_cons_of_ne same, sameFirst,
          sameLater, List.cons_append]

/-- Parts that are each ended by the character are cut at their ends and inside. -/
theorem splitAt_ended (separator : Char) (parts : List Text) :
    splitAt separator (parts.flatMap (· ++ [separator])) =
      parts.flatMap (splitAt separator) ++ [[]] := by
  induction parts with
  | nil => rfl
  | cons part rest ih =>
      rw [List.flatMap_cons, List.flatMap_cons, List.append_assoc, List.singleton_append,
        splitAt_append_cons, ih, List.append_assoc]

/-- Parts with the character between them, but not in them, are cut apart again. -/
theorem splitAt_join {parts : List Text} (some : parts ≠ [])
    (unseparated : ∀ part ∈ parts, separator ∉ part) :
    splitAt separator (join [separator] parts) = parts := by
  induction parts with
  | nil => exact absurd rfl some
  | cons part rest ih =>
      obtain ⟨own, others⟩ := List.forall_mem_cons.mp unseparated
      cases rest with
      | nil => exact splitAt_of_not_mem own
      | cons next later =>
          rw [join, List.append_assoc, List.singleton_append, splitAt_append_cons,
            splitAt_of_not_mem own, ih (List.cons_ne_nil _ _) others, List.singleton_append]

/-- If no first part holds the character, joined parts tell the first one, and what is joined after
it. -/
theorem join_cons_inj {part other : Text} {parts others : List Text} (own : separator ∉ part)
    (otherOwn : separator ∉ other)
    (same : join [separator] (part :: parts) = join [separator] (other :: others)) :
    part = other ∧ (parts = [] ↔ others = []) ∧
      join [separator] parts = join [separator] others := by
  have ended (text rest : Text) (unseparated : separator ∉ text) :
      firstPart separator (text ++ separator :: rest) = text := by
    rw [firstPart_append separator unseparated]
    simp [firstPart]
  cases parts with
  | nil =>
      cases others with
      | nil => exact ⟨same, Iff.rfl, rfl⟩
      | cons next later =>
          refine absurd ?_ own
          simp only [join] at same
          simp [same]
  | cons first rest =>
      cases others with
      | nil =>
          refine absurd ?_ otherOwn
          simp only [join] at same
          simp [← same]
      | cons next later =>
          simp only [join, List.append_assoc, List.singleton_append] at same
          have parts : part = other := by
            rw [← ended part _ own, same, ended other _ otherOwn]
          subst parts
          simp only [List.append_cancel_left_eq, List.cons.injEq, true_and] at same
          exact ⟨rfl, by simp, same⟩

/-- A beginning without the character is a beginning of the first part. -/
theorem prefix_firstPart_iff {front : Text} (unseparated : separator ∉ front) :
    front <+: firstPart separator text ↔ front <+: text := by
  constructor
  · exact fun begins => begins.trans (List.takeWhile_prefix _)
  · rintro ⟨rest, rfl⟩
    rw [firstPart_append separator unseparated]
    exact List.prefix_append _ _

end FeatureRunner.Text
