import FeatureRunner.Proofs.Text.LowerCase

/-!
# The colon has no other form

When case is ignored, a character may be equal to others: to its lower-case form, to what has the
same one, and to the letters that are paired with it.  No table of letters leads to the colon, so a
colon is equal to nothing but a colon.
-/

namespace FeatureRunner

theorem toNat_ofNat_of_ne {n : Nat} (filled : Char.ofNat n ≠ '\x00') :
    (Char.ofNat n).toNat = n := by
  by_cases valid : n.isValidChar
  · rw [Char.ofNat, dif_pos valid]
    rfl
  · rw [Char.ofNat, dif_neg valid] at filled
    exact absurd rfl filled

/-- No run of the lower-case table leads to the colon, and no pair does. -/
theorem colon_unreached :
    (lowerRuns.all fun run =>
      Nat.blt run.greatest ':'.toNat || Nat.blt ':'.toNat run.least) = true ∧
      (foldPairs.all fun pair => pair.2 != ':'.toNat) = true := by
  decide +kernel

theorem eq_colon_of_ofNat {n : Nat} (colon : Char.ofNat n = ':') : n = ':'.toNat := by
  rw [← toNat_ofNat_of_ne (n := n) (by rw [colon]; decide), colon]

theorem eq_colon_of_lowerLetter {c : Char} (colon : lowerLetter c = ':') : c = ':' := by
  cases found : counterpartIn? c.toNat lowerRuns with
  | none =>
      rw [lowerLetter, found] at colon
      exact colon
  | some n =>
      rw [lowerLetter, found] at colon
      obtain rfl := eq_colon_of_ofNat colon
      obtain ⟨run, among, has⟩ := exists_run_of_counterpartIn? found
      obtain ⟨fromLeast, toGreatest⟩ := CaseRun.counterpart?_bounds has
      have unreached := List.all_eq_true.mp colon_unreached.1 run among
      simp only [Bool.or_eq_true, Nat.blt_eq] at unreached
      omega

theorem eq_colon_of_foldLetter {c : Char} (colon : foldLetter c = ':') : c = ':' := by
  unfold foldLetter at colon
  cases paired : foldPairs.lookup (lowerLetter c).toNat with
  | none =>
      simp only [paired] at colon
      exact eq_colon_of_lowerLetter colon
  | some n =>
      simp only [paired] at colon
      obtain rfl := eq_colon_of_ofNat colon
      obtain ⟨before, after, pairs, -⟩ := List.lookup_eq_some_iff.mp paired
      have pair : ((lowerLetter c).toNat, ':'.toNat) ∈ foldPairs := by simp [pairs]
      have unreached := List.all_eq_true.mp colon_unreached.2 _ pair
      simp at unreached

/-- A colon is the same letter as a colon only. -/
theorem sameLetter_colon_iff {c : Char} : sameLetter ':' c = true ↔ c = ':' := by
  constructor
  · intro same
    rcases Bool.or_eq_true_iff.mp same with equal | folded
    · exact (beq_iff_eq.mp equal).symm
    · have own : foldLetter ':' = ':' := by decide +kernel
      exact eq_colon_of_foldLetter ((beq_iff_eq.mp folded).symm.trans own)
  · rintro rfl
    exact sameLetter_self ':'

end FeatureRunner
