import FeatureRunner.Number.Double
import Mathlib.Data.Rat.Cast.Order

/-!
# Whole doubles

A finite double is a rational number.  It is read as an integer exactly if that rational number
is one.
-/

namespace FeatureRunner.Double

def sign (negative : Bool) : Int := if negative then -1 else 1

/-- The rational number that a double is, if it is finite. -/
def toRat? : Double → Option ℚ
  | nan => none
  | infinite _ => none
  | finite negative mantissa exponent => some (sign negative * (mantissa * 2 ^ exponent))

variable {negative : Bool} {mantissa : Nat} {exponent : Int}

theorem sign_mul_sign (negative : Bool) : sign negative * sign negative = 1 := by
  cases negative <;> rfl

theorem toInt?_of_nonneg (upward : 0 ≤ exponent) :
    (finite negative mantissa exponent).toInt? =
      some (sign negative * ((mantissa * 2 ^ exponent.toNat : Nat) : Int)) := by
  unfold toInt?
  simp only [ge_iff_le, upward, if_true, unitsOf, Int.sub_zero, Nat.pow_eq]
  cases negative <;> simp [sign]

theorem toInt?_of_neg (downward : exponent < 0) :
    (finite negative mantissa exponent).toInt? =
      if 2 ^ (-exponent).toNat ∣ mantissa then
        some (sign negative * ((mantissa / 2 ^ (-exponent).toNat : Nat) : Int))
      else none := by
  unfold toInt?
  simp only [ge_iff_le, Int.not_le.mpr downward, if_false, Nat.pow_eq, Nat.dvd_iff_mod_eq_zero]
  cases negative <;> simp [sign]

/-- A signed quotient is an integer exactly if the divisor divides, and then it is the quotient of
the naturals. -/
theorem sign_mul_div_eq_iff {divisor : Nat} (positive : 0 < divisor) {n : Int} :
    (sign negative : ℚ) * (mantissa / divisor) = n ↔
      divisor ∣ mantissa ∧ sign negative * ((mantissa / divisor : Nat) : Int) = n := by
  have nonzero : (divisor : ℚ) ≠ 0 := Nat.cast_ne_zero.mpr (Nat.ne_of_gt positive)
  have squared : (sign negative : ℚ) * sign negative = 1 := by
    exact_mod_cast sign_mul_sign negative
  constructor
  · intro same
    -- A sign is its own inverse, so the equation can be solved for the mantissa.
    have whole : (mantissa : ℚ) = divisor * (sign negative * n) := by
      rw [← same, ← mul_assoc (sign negative : ℚ), squared, one_mul, mul_div_cancel₀ _ nonzero]
    have divides : divisor ∣ mantissa :=
      Int.natCast_dvd_natCast.mp ⟨sign negative * n, by exact_mod_cast whole⟩
    obtain ⟨quotient, rfl⟩ := divides
    refine ⟨Nat.dvd_mul_right _ _, ?_⟩
    rw [Nat.cast_mul, mul_div_cancel_left₀ _ nonzero] at same
    rw [Nat.mul_div_cancel_left _ positive]
    exact_mod_cast same
  · rintro ⟨⟨quotient, rfl⟩, same⟩
    rw [Nat.mul_div_cancel_left _ positive] at same
    rw [Nat.cast_mul, mul_div_cancel_left₀ _ nonzero]
    exact_mod_cast same

/-- A double is read as an integer exactly if it is that integer. -/
theorem toInt?_eq_some_iff {number : Double} {n : Int} :
    number.toInt? = some n ↔ number.toRat? = some (n : ℚ) := by
  cases number with
  | nan => simp [toInt?, toRat?]
  | infinite negative => simp [toInt?, toRat?]
  | finite negative mantissa exponent =>
      unfold toRat?
      rw [Option.some_inj]
      by_cases upward : 0 ≤ exponent
      · rw [toInt?_of_nonneg upward, Option.some_inj]
        obtain ⟨power, rfl⟩ := Int.eq_ofNat_of_zero_le upward
        rw [Int.toNat_natCast, zpow_natCast]
        exact_mod_cast Iff.rfl
      · -- With a negative exponent the double is a quotient by a power of two.
        have downward : exponent < 0 := Int.not_le.mp upward
        obtain ⟨power, negated⟩ := Int.eq_ofNat_of_zero_le (Int.neg_nonneg.mpr downward.le)
        have shifted : (mantissa : ℚ) * 2 ^ exponent = mantissa / (2 ^ power : Nat) := by
          rw [← Int.neg_neg exponent, negated, zpow_neg, zpow_natCast, div_eq_mul_inv]
          push_cast
          rfl
        rw [toInt?_of_neg downward, negated, Int.toNat_natCast, shifted,
          sign_mul_div_eq_iff (Nat.two_pow_pos power)]
        split
        · next divides => simp [divides]
        · next remains => simp [remains]

end FeatureRunner.Double
