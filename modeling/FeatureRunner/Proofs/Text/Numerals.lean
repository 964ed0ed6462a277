import FeatureRunner.Text.Basic

/-!
# Numerals

The decimal numeral of a number consists of digits and tells the number.  Ahead of a character that
is no digit it can be told where a numeral ends.
-/

namespace FeatureRunner.Text

variable {first second : Nat} {c : Char}

theorem isDigit_of_mem_ofNat {number : Nat} (member : c ∈ ofNat number) : c.isDigit = true :=
  Nat.isDigit_of_mem_toDigits (by decide) (by decide) member

theorem not_mem_ofNat (noDigit : c.isDigit = false) (number : Nat) : c ∉ ofNat number := by
  intro member
  simp [isDigit_of_mem_ofNat member] at noDigit

theorem ofNat_inj : ofNat first = ofNat second ↔ first = second := by
  refine ⟨fun same => ?_, congrArg ofNat⟩
  have values := congrArg (fun digits => Nat.ofDigitChars 10 digits 0) same
  simpa [ofNat] using values

/-- Only the numeral of zero begins with a zero. -/
theorem head?_ofNat_eq_zero_iff (number : Nat) : (ofNat number).head? = some '0' ↔ number = 0 := by
  induction number using Nat.strongRecOn with
  | ind number ih =>
      unfold ofNat at ih ⊢
      by_cases single : number < 10
      · rw [Nat.toDigits_of_lt_base single, List.head?_cons, Option.some_inj]
        exact Nat.digitChar_eq_zero
      · have smaller : number / 10 < number := by omega
        have shorter := ih _ smaller
        rw [Nat.toDigits_of_base_le (by decide) (Nat.le_of_not_lt single)]
        cases digits : Nat.toDigits 10 (number / 10) with
        | nil => exact absurd digits Nat.toDigits_ne_nil
        | cons first later =>
            rw [digits, List.head?_cons] at shorter
            rw [List.cons_append, List.head?_cons, shorter]
            omega

/-- The digits of a number end at a character that is no digit. -/
theorem takeWhile_isDigit_ofNat (number : Nat) (noDigit : c.isDigit = false) (rest : Text) :
    (ofNat number ++ c :: rest).takeWhile Char.isDigit = ofNat number := by
  rw [List.takeWhile_append_of_pos fun d => isDigit_of_mem_ofNat,
    List.takeWhile_cons_of_neg (by simp [noDigit]), List.append_nil]

theorem ofNat_append_inj (noDigit : c.isDigit = false) {rest other : Text} :
    ofNat first ++ c :: rest = ofNat second ++ c :: other ↔ first = second ∧ rest = other := by
  constructor
  · intro same
    have digits : ofNat first = ofNat second := by
      rw [← takeWhile_isDigit_ofNat first noDigit rest, same,
        takeWhile_isDigit_ofNat second noDigit other]
    rw [digits, List.append_cancel_left_eq, List.cons.injEq] at same
    exact ⟨ofNat_inj.mp digits, same.2⟩
  · rintro ⟨rfl, rfl⟩
    rfl

end FeatureRunner.Text
