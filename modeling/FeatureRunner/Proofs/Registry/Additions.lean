import FeatureRunner.Proofs.Registry.History

/-!
# What one more definition changes

A definition that is added comes last in the bucket of its verb.  So it is found for a step only if
nothing else is found in the same bucket or ahead of it.  Ahead of the wildcard bucket there is the
bucket of the verb, and a definition added there can take a step from the wildcard bucket.

This file says exactly for which steps one more definition makes a difference, and proves that
definitions of the wildcard verb make none where something was found before.
-/

namespace FeatureRunner.Registry

theorem firstMatch_append (text : Text) (first second : List StepDefinition) :
    firstMatch text (first ++ second) = (firstMatch text first).or (firstMatch text second) := by
  rw [firstMatch_eq_findSome?, firstMatch_eq_findSome?, firstMatch_eq_findSome?,
    List.findSome?_append]

theorem firstMatch_singleton (text : Text) (definition : StepDefinition) :
    firstMatch text [definition] = (definition.pattern.search text).map (definition, ·) := by
  rw [firstMatch_eq_findSome?, List.findSome?_singleton]

theorem addedUnder_append (lowered : Text) (entries : List StepEntry) {entry : StepEntry}
    {definition : StepDefinition} (defined : define entry = .ok definition) :
    addedUnder lowered (entries ++ [entry]) =
      addedUnder lowered entries ++ if entry.verb.lower = lowered then [definition] else [] := by
  unfold addedUnder added
  rw [List.filter_append, List.filterMap_append]
  by_cases under : entry.verb.lower = lowered <;> simp [under, defined, Except.toOption]

theorem verb_of_mem_addedUnder {lowered : Text} {entries : List StepEntry}
    {definition : StepDefinition} (member : definition ∈ addedUnder lowered entries) :
    definition.verb = lowered := by
  obtain ⟨entry, among, defined⟩ := List.mem_filterMap.mp member
  have under : entry.verb.lower = lowered := of_decide_eq_true (List.mem_filter.mp among).2
  cases outcome : define entry with
  | error fault =>
      rw [outcome] at defined
      cases defined
  | ok made =>
      rw [outcome] at defined
      cases defined
      rw [(define_eq_ok outcome).1, under]

/-- What is found in the bucket of a verb. -/
def foundUnder (lowered : Text) (entries : List StepEntry) (text : Text) :
    Option (StepDefinition × PatternMatch) :=
  firstMatch text (addedUnder lowered entries)

theorem verb_of_foundUnder {lowered text : Text} {entries : List StepEntry}
    {definition : StepDefinition} {found : PatternMatch}
    (finds : foundUnder lowered entries text = some (definition, found)) :
    definition.verb = lowered := by
  obtain ⟨earlier, later, split, -⟩ := firstMatch_eq_some_iff.mp finds
  exact verb_of_mem_addedUnder (split ▸ List.mem_append_right _ List.mem_cons_self)

theorem find_afterAttempts (entries : List StepEntry) (verb text : Text) :
    (afterAttempts entries).find verb text =
      (foundUnder verb.lower entries text).or
        (if verb.lower = wildcardVerb then none else foundUnder wildcardVerb entries text) := by
  rw [find, candidates_afterAttempts, tried, firstMatch_append]
  split <;> rfl

/-- One more definition is looked at after everything that was added under the same verb. -/
theorem foundUnder_append (lowered text : Text) (entries : List StepEntry) {entry : StepEntry}
    {definition : StepDefinition} (defined : define entry = .ok definition) :
    foundUnder lowered (entries ++ [entry]) text =
      (foundUnder lowered entries text).or
        (if entry.verb.lower = lowered then (definition.pattern.search text).map (definition, ·)
          else none) := by
  rw [foundUnder, addedUnder_append lowered entries defined, firstMatch_append]
  split
  · rw [firstMatch_singleton]
    rfl
  · rfl

/-- Whether a step may go to a definition that is added under a verb: nothing was found for it and
the definition is tried for its verb, or what was found is a definition of the wildcard verb and the
added one is of the verb itself. -/
def Yields (before : Option (StepDefinition × PatternMatch)) (added verb : Text) : Prop :=
  (before = none ∧ (added.lower = verb.lower ∨ added.lower = wildcardVerb)) ∨
    ∃ definition found, before = some (definition, found) ∧ definition.verb = wildcardVerb ∧
      added.lower = verb.lower ∧ verb.lower ≠ wildcardVerb

section OneMore

variable {entries : List StepEntry} {entry : StepEntry} {definition : StepDefinition}
  {verb text : Text}

/-- A definition of the verb itself comes between what is found under the verb and what is found
under the wildcard verb. -/
theorem find_append_of_own (defined : define entry = .ok definition)
    (own : entry.verb.lower = verb.lower) :
    (afterAttempts (entries ++ [entry])).find verb text =
      (foundUnder verb.lower entries text).or
        (((definition.pattern.search text).map (definition, ·)).or
          (if verb.lower = wildcardVerb then none else foundUnder wildcardVerb entries text)) := by
  rw [find_afterAttempts, foundUnder_append _ _ _ defined, foundUnder_append _ _ _ defined,
    if_pos own, Option.or_assoc, own]
  by_cases isWildcard : verb.lower = wildcardVerb
  · rw [if_pos isWildcard, if_pos isWildcard]
  · rw [if_neg isWildcard, if_neg isWildcard, if_neg isWildcard, Option.or_none]

theorem find_append_of_wildcard (defined : define entry = .ok definition)
    (wild : entry.verb.lower = wildcardVerb) (other : entry.verb.lower ≠ verb.lower) :
    (afterAttempts (entries ++ [entry])).find verb text =
      ((afterAttempts entries).find verb text).or
        ((definition.pattern.search text).map (definition, ·)) := by
  have notWildcard : verb.lower ≠ wildcardVerb := fun isWildcard =>
    other (wild.trans isWildcard.symm)
  rw [find_afterAttempts, find_afterAttempts, foundUnder_append _ _ _ defined,
    foundUnder_append _ _ _ defined, if_neg other, if_pos wild, if_neg notWildcard,
    if_neg notWildcard, Option.or_none, Option.or_assoc]

theorem find_append_of_other (defined : define entry = .ok definition)
    (tame : entry.verb.lower ≠ wildcardVerb) (other : entry.verb.lower ≠ verb.lower) :
    (afterAttempts (entries ++ [entry])).find verb text =
      (afterAttempts entries).find verb text := by
  rw [find_afterAttempts, find_afterAttempts, foundUnder_append _ _ _ defined,
    foundUnder_append _ _ _ defined, if_neg other, if_neg tame, Option.or_none, Option.or_none]

/-- A step yields to a definition of its own verb if nothing is found under that verb. -/
theorem yields_iff_of_own {added : Text} (own : added.lower = verb.lower) :
    Yields ((afterAttempts entries).find verb text) added verb ↔
      foundUnder verb.lower entries text = none := by
  rw [find_afterAttempts]
  cases found : foundUnder verb.lower entries text with
  | some first =>
      simp only [Option.some_or, reduceCtorEq, iff_false]
      rintro (⟨none, -⟩ | ⟨old, oldMatch, finds, wild, -, notWildcard⟩)
      · cases none
      · obtain rfl := Option.some.inj finds
        exact notWildcard ((verb_of_foundUnder found).symm.trans wild)
  | none =>
      simp only [Option.none_or, iff_true]
      by_cases isWildcard : verb.lower = wildcardVerb
      · exact .inl ⟨if_pos isWildcard, .inl own⟩
      · rw [if_neg isWildcard]
        cases found : foundUnder wildcardVerb entries text with
        | none => exact .inl ⟨rfl, .inl own⟩
        | some first =>
            exact .inr ⟨first.1, first.2, rfl, verb_of_foundUnder found, own, isWildcard⟩

/-- The effect of one more definition.  A step finds it if it is found in the text and the step
yields to it; otherwise the step finds what it found before. -/
theorem find_append (defined : define entry = .ok definition) (verb text : Text) :
    let before := (afterAttempts entries).find verb text
    let after := (afterAttempts (entries ++ [entry])).find verb text
    (Yields before entry.verb verb →
        after = ((definition.pattern.search text).map (definition, ·)).or before) ∧
      (¬ Yields before entry.verb verb → after = before) := by
  intro before after
  by_cases own : entry.verb.lower = verb.lower
  · have after_eq : after = _ := find_append_of_own defined own
    have before_eq : before = _ := find_afterAttempts entries verb text
    rw [show Yields before entry.verb verb ↔ _ from yields_iff_of_own own, after_eq, before_eq]
    cases foundUnder verb.lower entries text <;> simp
  · have yields_iff : Yields before entry.verb verb ↔
        before = none ∧ entry.verb.lower = wildcardVerb := by
      simp [Yields, own]
    rw [yields_iff]
    by_cases wild : entry.verb.lower = wildcardVerb
    · have after_eq : after = before.or _ := find_append_of_wildcard defined wild own
      rw [after_eq]
      cases before <;> simp [wild]
    · have after_eq : after = before := find_append_of_other defined wild own
      simp [wild, after_eq]

/-- One more definition makes a difference for a step exactly if it is found in the text and the
step yields to it, and then the step finds it. -/
theorem find_append_ne_iff (defined : define entry = .ok definition) (verb text : Text) :
    let before := (afterAttempts entries).find verb text
    let after := (afterAttempts (entries ++ [entry])).find verb text
    (after ≠ before ↔
        (∃ found, definition.pattern.search text = some found) ∧ Yields before entry.verb verb) ∧
      (after ≠ before → ∃ found, definition.pattern.search text = some found ∧
        after = some (definition, found)) := by
  intro before after
  obtain ⟨taken, kept⟩ := @find_append entries entry definition defined verb text
  by_cases yields : Yields before entry.verb verb
  · have found := taken yields
    cases searched : definition.pattern.search text with
    | none =>
        rw [searched] at found
        have same : after = before := found
        simp [same]
    | some match_ =>
        rw [searched] at found
        have other : after = some (definition, match_) := found
        -- What the step yields is a definition of the other verb, so it is not the added one.
        have changed : after ≠ before := by
          rw [other]
          rcases yields with ⟨none, -⟩ | ⟨old, oldMatch, finds, wild, own, notWild⟩
          · rw [none]
            exact Option.some_ne_none _
          · rw [finds]
            intro same
            have sameVerb := congrArg StepDefinition.verb (Prod.mk.inj (Option.some.inj same)).1
            rw [(define_eq_ok defined).1, wild, own] at sameVerb
            exact notWild sameVerb
        exact ⟨⟨fun _ => ⟨⟨match_, rfl⟩, yields⟩, fun _ => changed⟩,
          fun _ => ⟨match_, rfl, other⟩⟩
  · have same : after = before := kept yields
    simp [same, yields]

end OneMore

/-- A definition of the wildcard verb is tried after all others, whatever the verb of the step. -/
theorem candidates_register {definition : StepDefinition} (wild : definition.verb = wildcardVerb)
    (registry : Registry) (verb : Text) :
    (registry.register definition).candidates verb = registry.candidates verb ++ [definition] := by
  rw [candidates, candidates, definitions, definitions, definitions, definitions, register,
    bucket_insert, bucket_insert, wild, Text.lower_lower, lower_wildcardVerb]
  by_cases isWildcard : verb.lower = wildcardVerb
  · simp [isWildcard]
  · simp [isWildcard, Ne.symm isWildcard]

/-- Definitions of the wildcard verb that are added later do not take a step away from what is found
for it. -/
theorem find_addAll_of_some {entries : List StepEntry}
    (wild : ∀ entry ∈ entries, entry.verb.lower = wildcardVerb) {registry : Registry}
    {verb text : Text} {found : StepDefinition × PatternMatch}
    (finds : registry.find verb text = some found) :
    (registry.addAll entries).1.find verb text = some found := by
  induction entries generalizing registry with
  | nil => exact finds
  | cons entry rest ih =>
      obtain ⟨first, others⟩ := List.forall_mem_cons.mp wild
      unfold addAll add
      cases defined : define entry with
      | error fault => exact finds
      | ok definition =>
          have wildDefinition := (define_eq_ok defined).1.trans first
          refine ih others ?_
          rw [find, candidates_register wildDefinition, firstMatch_append,
            show firstMatch text (registry.candidates verb) = some found from finds]
          rfl

/-- The same at the end of a library, which may also break off before it gets to them. -/
theorem find_addAll_append_of_some {library more : List StepEntry}
    (wild : ∀ entry ∈ more, entry.verb.lower = wildcardVerb) {registry : Registry}
    {verb text : Text} {found : StepDefinition × PatternMatch}
    (finds : (registry.addAll library).1.find verb text = some found) :
    (registry.addAll (library ++ more)).1.find verb text = some found := by
  induction library generalizing registry with
  | nil => exact find_addAll_of_some wild finds
  | cons entry rest ih =>
      rw [List.cons_append]
      unfold addAll add at finds ⊢
      cases defined : define entry with
      | error fault =>
          rw [defined] at finds
          exact finds
      | ok definition =>
          rw [defined] at finds
          exact ih finds

end FeatureRunner.Registry
