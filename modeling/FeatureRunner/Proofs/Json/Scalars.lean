import FeatureRunner.Json.Reader
import FeatureRunner.Json.Writer
import FeatureRunner.Proofs.Text.Numerals
import Mathlib.Data.List.Basic
import Mathlib.Tactic.IntervalCases

/-!
# Reading strings and whole numbers back

A written string is read up to its closing quote, and its escapes give back the characters that they
were written for.  A written whole number is read up to what ends a part of a text.
-/

namespace FeatureRunner

namespace Json

variable {rest : Text} {c : Char}

/-- A character is written as an escape that stands for it, or as itself if it needs no escape. -/
theorem writtenChar_cases (c : Char) :
    (∃ escape, writtenChar c = '\\' :: escape ∧
        ∀ rest, readEscape (escape ++ rest) = some (c, rest)) ∨
      (writtenChar c = [c] ∧ c ≠ '"' ∧ c ≠ '\\' ∧ 0x20 ≤ c.toNat) := by
  by_cases quote : c = '"'
  · subst quote
    exact .inl ⟨_, rfl, fun rest => rfl⟩
  by_cases backslash : c = '\\'
  · subst backslash
    exact .inl ⟨_, rfl, fun rest => rfl⟩
  by_cases control : c.toNat < 0x20
  · -- There are few control characters, and each has an escape of its own.
    left
    rw [← Char.ofNat_toNat c]
    generalize c.toNat = number at control
    interval_cases number <;> exact ⟨_, rfl, fun rest => rfl⟩
  · have other {d : Char} (isControl : d.toNat < 0x20) : c ≠ d := by
      rintro rfl
      exact control isControl
    refine .inr ⟨?_, quote, backslash, Nat.le_of_not_lt control⟩
    simp [writtenChar, quote, backslash, control, other]

/-- A written character is read as itself. -/
theorem readString_writtenChar (fuel : Nat) (c : Char) (rest : Text) :
    readString (fuel + 1) (writtenChar c ++ rest) =
      (readString fuel rest).map fun found => (c :: found.1, found.2) := by
  rcases writtenChar_cases c with ⟨escape, written, stands⟩ | ⟨written, quote, backslash, plain⟩
  · rw [written, List.cons_append, readString, stands]
    exact Option.map_eq_bind.symm
  · rw [written, List.singleton_append, readString, if_neg (Nat.not_lt.mpr plain)]
    · cases readString fuel rest <;> rfl
    · exact quote
    · exact backslash

theorem writtenChar_ne_nil (c : Char) : writtenChar c ≠ [] := by
  rcases writtenChar_cases c with ⟨escape, written, -⟩ | ⟨written, -⟩ <;> simp [written]

theorem readString_written {content : Text} {fuel : Nat}
    (enough : (content.flatMap writtenChar).length < fuel) (rest : Text) :
    readString fuel (content.flatMap writtenChar ++ '"' :: rest) = some (content, rest) := by
  induction content generalizing fuel with
  | nil =>
      obtain ⟨fuel, rfl⟩ := Nat.exists_eq_succ_of_ne_zero (Nat.ne_of_gt enough)
      rfl
  | cons c content ih =>
      have written := List.length_pos_iff.mpr (writtenChar_ne_nil c)
      rw [List.flatMap_cons, List.length_append] at enough
      obtain ⟨fuel, rfl⟩ : ∃ less, fuel = less + 1 := ⟨fuel - 1, by omega⟩
      rw [List.flatMap_cons, List.append_assoc, readString_writtenChar, ih (by omega)]
      rfl

/-- What may come after a part of a text: nothing, a comma or a line feed. -/
def EndsPart (rest : Text) : Prop := ∀ c ∈ rest.head?, c = ',' ∨ c = '\n'

theorem digitIn?_ten (digit : c.isDigit = true) : digitIn? 10 c = some (c.toNat - '0'.toNat) := by
  obtain ⟨least, greatest⟩ := Char.isDigit_iff_toNat.mp digit
  have between : 0x30 ≤ c.toNat ∧ c.toNat ≤ 0x39 := ⟨least, greatest⟩
  have small : c.toNat - 0x30 < 10 := by omega
  simp [digitIn?, between, small]

theorem numberIn_ten {digits : Text} (all : ∀ c ∈ digits, c.isDigit = true) :
    numberIn 10 digits = Nat.ofDigitChars 10 digits 0 := by
  rw [Nat.ofDigitChars_eq_foldl, numberIn]
  refine List.foldl_ext _ _ _ fun value c member => ?_
  rw [digitIn?_ten (all c member), Option.getD_some]

theorem numberIn_ofNat (number : Nat) : numberIn 10 (Text.ofNat number) = number := by
  rw [numberIn_ten fun c => Text.isDigit_of_mem_ofNat]
  exact Nat.ofDigitChars_toDigits (by decide) (by decide)

theorem readDigits_ofNat (number : Nat) (ends : EndsPart rest) :
    readDigits (Text.ofNat number ++ rest) = (Text.ofNat number, rest) := by
  have digits : ∀ c ∈ Text.ofNat number, isDigitIn 10 c = true := fun c member => by
    rw [isDigitIn, digitIn?_ten (Text.isDigit_of_mem_ofNat member), Option.isSome_some]
  rw [readDigits, List.takeWhile_append_of_pos digits, List.dropWhile_append_of_pos digits]
  cases rest with
  | nil => simp
  | cons c rest =>
      rcases ends c rfl with rfl | rfl <;> simp [isDigitIn, digitIn?]

theorem readWhole_ofNat (number : Nat) (ends : EndsPart rest) :
    readWhole (Text.ofNat number ++ rest) = some (Text.ofNat number, rest) := by
  cases numeral : Text.ofNat number with
  | nil => exact absurd numeral Nat.toDigits_ne_nil
  | cons first later =>
      by_cases zero : first = '0'
      · -- A numeral that begins with a zero is the numeral of zero.
        subst zero
        obtain rfl := (Text.head?_ofNat_eq_zero_iff number).mp (numeral ▸ List.head?_cons)
        obtain rfl : [] = later := (List.cons.inj numeral).2
        rfl
      · have digits := readDigits_ofNat number ends
        rw [numeral, List.cons_append] at digits
        rw [List.cons_append, readWhole, digits]
        · rfl
        · exact fun after same => zero (List.cons.inj same).1

theorem readFraction_of_ends (ends : EndsPart rest) : readFraction rest = ([], rest) := by
  cases rest with
  | nil => rfl
  | cons c rest => rcases ends c rfl with rfl | rfl <;> rfl

theorem readExponent_of_ends (ends : EndsPart rest) : readExponent rest = (none, rest) := by
  cases rest with
  | nil => rfl
  | cons c rest => rcases ends c rfl with rfl | rfl <;> rfl

/-- A whole number can be written if it has no more digits than the limit. -/
theorem isWritable_iff {number : Int} :
    isWritable number = true ↔ (Text.ofNat number.natAbs).length ≤ wholeNumberDigitLimit := by
  have bounded {limit : Nat} (positive : 0 < limit) :
      number.natAbs < Nat.pow 10 limit ↔ (Text.ofNat number.natAbs).length ≤ limit :=
    (Nat.length_toDigits_le_iff (by decide) positive).symm
  exact decide_eq_true_iff.trans (bounded (by decide))

theorem readNumber_ofNat {number : Nat}
    (short : (Text.ofNat number).length ≤ wholeNumberDigitLimit) (negative : Bool)
    (ends : EndsPart rest) :
    readNumber negative (Text.ofNat number ++ rest) =
      .ok (.int (if negative then -number else number), rest) := by
  unfold readNumber
  rw [readWhole_ofNat number ends]
  simp only [readFraction_of_ends ends, readExponent_of_ends ends, numberIn_ofNat]
  simp [Nat.not_lt.mpr short]

end Json

end FeatureRunner
