import FeatureRunner.Text.Blank
import Mathlib.Data.List.TakeWhile

/-!
# Trimmed texts

A trimmed text neither begins nor ends with a blank character.  Trimming leaves such texts as they
are, makes one of every text, and takes off blank characters only.
-/

namespace FeatureRunner.Text

variable {text front back : Text}

def IsBlankText (text : Text) : Prop := ∀ c ∈ text, isBlank c = true

structure IsTrimmed (text : Text) : Prop where
  front : ∀ c ∈ text.head?, isBlank c = false
  back : ∀ c ∈ text.getLast?, isBlank c = false

theorem isBlankText_nil : IsBlankText [] := by simp [IsBlankText]

theorem IsTrimmed.cons {c : Char} (solid : isBlank c = false) (trimmed : text.IsTrimmed) :
    IsTrimmed (c :: text) := by
  refine ⟨by simpa using solid, fun last ending => ?_⟩
  cases text with
  | nil =>
      obtain rfl : c = last := by simpa using ending
      exact solid
  | cons first rest => exact trimmed.back last (by simpa using ending)

theorem stripLeft_eq_nil_iff : stripLeft text = [] ↔ IsBlankText text :=
  List.dropWhile_eq_nil_iff

theorem stripLeft_append_blank (blank : IsBlankText front) (text : Text) :
    stripLeft (front ++ text) = stripLeft text :=
  List.dropWhile_append_of_pos blank

/-- Blank characters around a text do not matter for the trimmed text. -/
theorem strip_surrounded (ahead : IsBlankText front) (after : IsBlankText back) (text : Text) :
    strip (front ++ (text ++ back)) = strip text := by
  unfold strip
  rw [stripLeft_append_blank ahead, stripLeft, List.dropWhile_append]
  split
  · next none =>
    have nothing : stripLeft text = [] := List.isEmpty_iff.mp none
    have blank : stripLeft back = [] := stripLeft_eq_nil_iff.mpr after
    rw [nothing]
    exact congrArg stripRight blank
  · exact stripRight_append_blank after

theorem exists_stripLeft (text : Text) :
    ∃ front, IsBlankText front ∧ text = front ++ stripLeft text := by
  refine ⟨text.takeWhile isBlank, fun c member => ?_, ?_⟩
  · exact List.mem_takeWhile_imp member
  · exact List.takeWhile_append_dropWhile.symm

theorem exists_stripRight (text : Text) :
    ∃ back, IsBlankText back ∧ text = stripRight text ++ back := by
  obtain ⟨front, blank, whole⟩ := exists_stripLeft text.reverse
  refine ⟨front.reverse, fun c member => blank c (List.mem_reverse.mp member), ?_⟩
  have parts := congrArg List.reverse whole
  rw [List.reverse_reverse, List.reverse_append] at parts
  exact parts

/-- A text is its trimmed text with blank characters around it. -/
theorem exists_strip (text : Text) :
    ∃ front back, IsBlankText front ∧ IsBlankText back ∧ text = front ++ (strip text ++ back) := by
  obtain ⟨front, ahead, whole⟩ := exists_stripLeft text
  obtain ⟨back, after, inside⟩ := exists_stripRight (stripLeft text)
  refine ⟨front, back, ahead, after, ?_⟩
  rw [strip, ← inside]
  exact whole

theorem solid_of_mem_head?_stripLeft (text : Text) :
    ∀ c ∈ (stripLeft text).head?, isBlank c = false := by
  intro c first
  have solid := List.head?_dropWhile_not isBlank text
  rw [stripLeft] at first
  rw [Option.mem_def.mp first] at solid
  simpa using solid

theorem solid_of_mem_getLast?_stripRight (text : Text) :
    ∀ c ∈ (stripRight text).getLast?, isBlank c = false := by
  rw [stripRight, List.getLast?_reverse]
  exact solid_of_mem_head?_stripLeft text.reverse

theorem isTrimmed_strip (text : Text) : (strip text).IsTrimmed := by
  refine ⟨fun c first => ?_, solid_of_mem_getLast?_stripRight _⟩
  -- What stands first after both ends are trimmed stood first before the end was.
  obtain ⟨back, -, whole⟩ := exists_stripRight (stripLeft text)
  have stood : c ∈ (stripLeft text).head? := by
    have kept : (stripRight (stripLeft text)).head? = some c := first
    rw [whole, List.head?_append, kept]
    rfl
  exact solid_of_mem_head?_stripLeft text c stood

theorem stripLeft_of_solid (solid : ∀ c ∈ text.head?, isBlank c = false) :
    stripLeft text = text := by
  cases text with
  | nil => rfl
  | cons c rest => exact List.dropWhile_cons_of_neg (by simp [solid c rfl])

/-- A text that does not begin with a blank character is trimmed at its end alone. -/
theorem exists_strip_of_solid (solid : ∀ c ∈ text.head?, isBlank c = false) :
    ∃ back, IsBlankText back ∧ text = strip text ++ back := by
  rw [strip, stripLeft_of_solid solid]
  exact exists_stripRight text

theorem strip_of_isTrimmed (trimmed : text.IsTrimmed) : strip text = text := by
  rw [strip, stripLeft_of_solid trimmed.front, stripRight]
  cases ending : text.reverse with
  | nil => simpa using ending
  | cons c rest =>
    have last : text.getLast? = some c := by rw [← List.head?_reverse, ending, List.head?_cons]
    rw [List.dropWhile_cons_of_neg (by simp [trimmed.back c last]), ← ending,
      List.reverse_reverse]

theorem strip_eq_nil_iff : strip text = [] ↔ IsBlankText text := by
  constructor
  · intro none
    obtain ⟨front, back, ahead, after, whole⟩ := exists_strip text
    rw [none, List.nil_append] at whole
    rw [whole]
    exact List.forall_mem_append.mpr ⟨ahead, after⟩
  · intro blank
    rw [strip, stripLeft_eq_nil_iff.mpr blank, stripRight_nil]

/-- Trimming keeps what a text holds, blank characters aside. -/
theorem mem_of_mem_strip {c : Char} (member : c ∈ strip text) : c ∈ text := by
  obtain ⟨front, back, -, -, whole⟩ := exists_strip text
  rw [whole]
  exact List.mem_append_right _ (List.mem_append_left _ member)

end FeatureRunner.Text
