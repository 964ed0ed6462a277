import FeatureRunner.Text.Case

/-!
# Lower case is settled

The lower-case form of a text has a lower-case form of its own, which is the same text.  For
single letters this is read off the table: no counterpart of a letter in one of its runs is a
letter of any run.  The two letters that the table does not decide alone, the sigma and the
dotted capital i, do not occur in a lower-case form.
-/

namespace FeatureRunner

namespace CaseRun

variable {run : CaseRun} {n m : Nat}

theorem counterpart?_eq_some (found : run.counterpart? n = some m) :
    run.first ≤ n ∧ n ≤ run.last ∧ (n - run.first) % run.stride = 0 ∧
      m = Int.toNat (n + run.distance) := by
  unfold counterpart? at found
  split at found
  · next inside =>
    cases found
    exact ⟨inside.1, inside.2.1, inside.2.2, rfl⟩
  · cases found

/-- The number of the counterpart of the first letter of a run. -/
def least (run : CaseRun) : Nat := Int.toNat (run.first + run.distance)

/-- The number of the counterpart of the last letter of a run. -/
def greatest (run : CaseRun) : Nat := Int.toNat (run.last + run.distance)

/-- Whether the counterparts of two runs of every second letter fall between the letters of the
other run, or those of one letter alone do. -/
def alternates (run other : CaseRun) : Bool :=
  (run.least + other.first) % 2 = 1 && other.stride = 2 &&
    (run.first = run.last || (run.stride = 2 && decide (0 ≤ run.first + run.distance)))

/-- Whether no counterpart of a letter in the run is a letter of the other runs, which are in the
order of their beginnings. -/
def clearOf (run : CaseRun) : List CaseRun → Bool
  | [] => true
  | other :: later =>
    Nat.blt run.greatest other.first ||
      ((Nat.blt other.last run.least || run.alternates other) && clearOf run later)

theorem counterpart?_eq_none_of_alternates {other : CaseRun} (found : run.counterpart? n = some m)
    (alternate : run.alternates other = true) : other.counterpart? m = none := by
  obtain ⟨least, greatest, onStride, rfl⟩ := counterpart?_eq_some found
  simp only [alternates, Bool.and_eq_true, Bool.or_eq_true, decide_eq_true_eq] at alternate
  obtain ⟨⟨odd, second⟩, own⟩ := alternate
  unfold CaseRun.least at odd
  apply if_neg
  rintro ⟨atLeast, atMost, onOther⟩
  rw [second] at onOther
  rcases own with alone | ⟨own, positive⟩
  · have only : n = run.first := by omega
    subst only
    omega
  · rw [own] at onStride
    omega

theorem counterpart?_bounds (found : run.counterpart? n = some m) :
    run.least ≤ m ∧ m ≤ run.greatest := by
  obtain ⟨atLeast, atMost, -, shifted⟩ := counterpart?_eq_some found
  unfold least greatest
  omega

/-- What a run makes of its letters has no counterpart in runs that it is clear of. -/
theorem counterpartIn?_eq_none {others : List CaseRun} (found : run.counterpart? n = some m)
    (clear : run.clearOf others = true) : counterpartIn? m others = none := by
  obtain ⟨fromLeast, toGreatest⟩ := counterpart?_bounds found
  induction others with
  | nil => rfl
  | cons other later ih =>
      unfold clearOf at clear
      unfold counterpartIn?
      simp only [Bool.or_eq_true, Bool.and_eq_true, Nat.blt_eq] at clear
      split
      · rfl
      · next reached =>
        rcases clear with beyond | ⟨here, clearLater⟩
        · omega
        · have absent : other.counterpart? m = none := by
            rcases here with before | alternate
            · apply if_neg
              omega
            · exact counterpart?_eq_none_of_alternates found alternate
          rw [absent, ih clearLater]
          rfl

end CaseRun

/-- A number with a counterpart in one of several runs has it in a run among them. -/
theorem exists_run_of_counterpartIn? {n m : Nat} {runs : List CaseRun}
    (found : counterpartIn? n runs = some m) : ∃ run ∈ runs, run.counterpart? n = some m := by
  induction runs with
  | nil => cases found
  | cons run later ih =>
      unfold counterpartIn? at found
      split at found
      · cases found
      · cases here : run.counterpart? n with
        | some other =>
            rw [here] at found
            cases found
            exact ⟨run, List.mem_cons_self, here⟩
        | none =>
            rw [here] at found
            obtain ⟨inside, among, has⟩ := ih found
            exact ⟨inside, List.mem_cons_of_mem _ among, has⟩

/-- No run of the lower-case table leads to a letter of the table again. -/
theorem lowerRuns_clear : (lowerRuns.all fun run => run.clearOf lowerRuns) = true := by
  decide +kernel

@[simp]
theorem lowerLetter_lowerLetter (c : Char) : lowerLetter (lowerLetter c) = lowerLetter c := by
  cases found : counterpartIn? c.toNat lowerRuns with
  | none =>
      have same : lowerLetter c = c := by
        rw [lowerLetter, found]
      rw [same, same]
  | some n =>
      have lowered : lowerLetter c = Char.ofNat n := by
        rw [lowerLetter, found]
      obtain ⟨run, among, has⟩ := exists_run_of_counterpartIn? found
      have clear := List.all_eq_true.mp lowerRuns_clear run among
      -- A number that is no character stands for the null character, which has no other case.
      have settled : counterpartIn? (Char.ofNat n).toNat lowerRuns = none := by
        by_cases valid : n.isValidChar
        · rw [Char.ofNat, dif_pos valid]
          exact CaseRun.counterpartIn?_eq_none has clear
        · rw [Char.ofNat, dif_neg valid]
          rfl
      rw [lowered, lowerLetter, settled]

/-- A character that stays as it is in lower case, wherever it stands in a text. -/
structure IsLowerLetter (c : Char) : Prop where
  lowerLetter_eq : lowerLetter c = c
  ne_sigma : c ≠ 'Σ'
  ne_dottedI : c ≠ 'İ'

theorem isLowerLetter_lowerLetter (c : Char) : IsLowerLetter (lowerLetter c) where
  lowerLetter_eq := lowerLetter_lowerLetter c
  ne_sigma := by
    intro sigma
    have again := lowerLetter_lowerLetter c
    rw [sigma] at again
    exact absurd again (by decide +kernel)
  ne_dottedI := by
    intro dotted
    have again := lowerLetter_lowerLetter c
    rw [dotted] at again
    exact absurd again (by decide +kernel)

/-- Whatever lower-casing a text gives stays as it is. -/
theorem isLowerLetter_of_mem_lowerAfter {before text : Text} {c : Char}
    (among : c ∈ lowerAfter before text) : IsLowerLetter c := by
  induction text generalizing before with
  | nil => cases among
  | cons head rest ih =>
      rcases List.mem_append.mp among with here | later
      · split at here
        · split at here
          · obtain rfl := List.mem_singleton.mp here
            exact ⟨by decide +kernel, by decide, by decide⟩
          · obtain rfl := List.mem_singleton.mp here
            exact ⟨by decide +kernel, by decide, by decide⟩
        · split at here
          · simp only [List.mem_cons, List.not_mem_nil, or_false] at here
            rcases here with rfl | rfl
            · exact ⟨by decide +kernel, by decide, by decide⟩
            · exact ⟨by decide +kernel, by decide, by decide⟩
          · obtain rfl := List.mem_singleton.mp here
            exact isLowerLetter_lowerLetter head
      · exact ih later

theorem lowerAfter_eq_self {before text : Text} (lower : ∀ c ∈ text, IsLowerLetter c) :
    lowerAfter before text = text := by
  induction text generalizing before with
  | nil => rfl
  | cons head rest ih =>
      obtain ⟨here, later⟩ := List.forall_mem_cons.mp lower
      unfold lowerAfter
      rw [if_neg here.ne_sigma, if_neg here.ne_dottedI, here.lowerLetter_eq, ih later]
      rfl

namespace Text

/-- The lower-case form of a text is its own lower-case form. -/
@[simp]
theorem lower_lower (text : Text) : text.lower.lower = text.lower :=
  lowerAfter_eq_self fun _ among => isLowerLetter_of_mem_lowerAfter among

end Text

end FeatureRunner
