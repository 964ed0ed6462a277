import FeatureRunner.Proofs.Text.LowerCase
import FeatureRunner.Registry

/-!
# Lookup as a function of the history

A registry is built by attempts to add entries, some of which fail.  What it offers for a verb can
be told from the list of these attempts alone: the definitions whose verb is the same in lower
case, in the order in which they were added, and then those of the wildcard verb.  How the
additions for several verbs were mixed makes no difference.
-/

namespace FeatureRunner.Registry

/-- The registry after an attempt to add an entry. -/
def attempt (registry : Registry) (entry : StepEntry) : Registry :=
  match registry.add entry with
  | .ok (extended, _) => extended
  | .error _ => registry

/-- A new registry after attempts to add entries, one after the other. -/
def afterAttempts (entries : List StepEntry) : Registry := entries.foldl attempt empty

/-- The definitions that were added by attempts. -/
def added (entries : List StepEntry) : List StepDefinition :=
  entries.filterMap fun entry => (define entry).toOption

/-- The definitions that were added under verbs with the given lower-case form. -/
def addedUnder (lowered : Text) (entries : List StepEntry) : List StepDefinition :=
  added (entries.filter fun entry => entry.verb.lower = lowered)

/-- The definitions to try for a verb, in order, according to the attempts. -/
def tried (entries : List StepEntry) (verb : Text) : List StepDefinition :=
  addedUnder verb.lower entries ++
    if verb.lower = wildcardVerb then [] else addedUnder wildcardVerb entries

theorem define_eq_ok {entry : StepEntry} {definition : StepDefinition}
    (defined : define entry = .ok definition) :
    definition.verb = entry.verb.lower ∧ definition.pattern = entry.pattern.compile ∧
      entry.handler = .action definition.action := by
  unfold define at defined
  split at defined
  · next action callable =>
    cases defined
    exact ⟨rfl, rfl, callable⟩
  · cases defined

theorem attempt_of_ok {registry : Registry} {entry : StepEntry} {definition : StepDefinition}
    (defined : define entry = .ok definition) :
    registry.attempt entry = registry.register definition := by
  rw [attempt, add, defined]
  rfl

theorem attempt_of_error {registry : Registry} {entry : StepEntry} {fault : NotCallable}
    (refused : define entry = .error fault) : registry.attempt entry = registry := by
  rw [attempt, add, refused]
  rfl

theorem bucket_insert (definition : StepDefinition) (buckets : List (Text × List StepDefinition))
    (wanted : Text) :
    bucket (insert definition buckets) wanted =
      bucket buckets wanted ++ if definition.verb = wanted then [definition] else [] := by
  induction buckets with
  | nil => rfl
  | cons first rest ih =>
      obtain ⟨verb, definitions⟩ := first
      by_cases own : verb = definition.verb
      · subst own
        by_cases here : definition.verb = wanted
        · simp [insert, bucket, here]
        · simp [insert, bucket, here]
      · by_cases here : verb = wanted
        · subst here
          simp [insert, bucket, own, Ne.symm own]
        · simp [insert, bucket, own, here, ih]

theorem addedUnder_cons (lowered : Text) (entry : StepEntry) (rest : List StepEntry) :
    addedUnder lowered (entry :: rest) =
      (if entry.verb.lower = lowered then (define entry).toOption.toList else []) ++
        addedUnder lowered rest := by
  unfold addedUnder added
  by_cases under : entry.verb.lower = lowered
  · cases defined : (define entry).toOption <;> simp [under, defined]
  · simp [under]

/-- A bucket grows by the definitions that are added under its verb. -/
theorem bucket_foldl_attempt (entries : List StepEntry) (registry : Registry) (lowered : Text) :
    bucket (entries.foldl attempt registry).buckets lowered =
      bucket registry.buckets lowered ++ addedUnder lowered entries := by
  induction entries generalizing registry with
  | nil => exact (List.append_nil _).symm
  | cons entry rest ih =>
      rw [List.foldl_cons, ih, addedUnder_cons, ← List.append_assoc]
      -- What is left is one attempt: a failed one leaves the bucket as it is.
      congr 1
      cases defined : define entry with
      | error fault =>
          rw [attempt_of_error defined]
          simp [Except.toOption]
      | ok definition =>
          rw [attempt_of_ok defined, register, bucket_insert, (define_eq_ok defined).1]
          rfl

theorem definitions_afterAttempts (entries : List StepEntry) (verb : Text) :
    (afterAttempts entries).definitions verb = addedUnder verb.lower entries :=
  bucket_foldl_attempt entries empty verb.lower

/-- The wildcard verb is in lower case itself. -/
theorem lower_wildcardVerb : wildcardVerb.lower = wildcardVerb := by
  decide +kernel

theorem candidates_afterAttempts (entries : List StepEntry) (verb : Text) :
    (afterAttempts entries).candidates verb = tried entries verb := by
  rw [candidates, definitions_afterAttempts, definitions_afterAttempts, Text.lower_lower,
    lower_wildcardVerb, tried]

/-- The candidates for a verb do not depend on how it is spelled. -/
theorem candidates_lower (registry : Registry) (verb : Text) :
    registry.candidates verb.lower = registry.candidates verb := by
  rw [candidates, candidates, Text.lower_lower]

theorem find_lower (registry : Registry) (verb text : Text) :
    registry.find verb.lower text = firstMatch text (registry.candidates verb) := by
  rw [find, candidates_lower]

theorem firstMatch_eq_findSome? (text : Text) (definitions : List StepDefinition) :
    firstMatch text definitions =
      definitions.findSome? fun definition =>
        (definition.pattern.search text).map (definition, ·) := by
  induction definitions with
  | nil => rfl
  | cons definition rest ih =>
      unfold firstMatch
      cases found : definition.pattern.search text <;> simp [found, ih]

/-- The first match is at a definition that none of those before it matches. -/
theorem firstMatch_eq_some_iff {text : Text} {definitions : List StepDefinition}
    {definition : StepDefinition} {found : PatternMatch} :
    firstMatch text definitions = some (definition, found) ↔
      ∃ earlier later, definitions = earlier ++ definition :: later ∧
        definition.pattern.search text = some found ∧
        ∀ other ∈ earlier, other.pattern.search text = none := by
  rw [firstMatch_eq_findSome?, List.findSome?_eq_some_iff]
  constructor
  · rintro ⟨earlier, here, later, split, matched, unmatched⟩
    obtain ⟨match?, searched, same⟩ := Option.map_eq_some_iff.mp matched
    cases same
    exact ⟨earlier, later, split, searched, fun other among =>
      Option.map_eq_none_iff.mp (unmatched other among)⟩
  · rintro ⟨earlier, later, split, searched, unmatched⟩
    refine ⟨earlier, definition, later, split, ?_, fun other among => ?_⟩
    · rw [searched]
      rfl
    · rw [unmatched other among]
      rfl

theorem firstMatch_eq_none_iff {text : Text} {definitions : List StepDefinition} :
    firstMatch text definitions = none ↔
      ∀ definition ∈ definitions, definition.pattern.search text = none := by
  rw [firstMatch_eq_findSome?, List.findSome?_eq_none_iff]
  simp only [Option.map_eq_none_iff]

theorem foldl_length_insert (definition : StepDefinition)
    (buckets : List (Text × List StepDefinition)) (start : Nat) :
    (insert definition buckets).foldl (fun count bucket => count + bucket.2.length) start =
      buckets.foldl (fun count bucket => count + bucket.2.length) start + 1 := by
  induction buckets generalizing start with
  | nil => rfl
  | cons first rest ih =>
      obtain ⟨verb, definitions⟩ := first
      unfold insert
      split
      · -- The longer bucket comes first, and what follows only adds to the count.
        have shifted (count : Nat) (others : List (Text × List StepDefinition)) :
            others.foldl (fun count bucket => count + bucket.2.length) (count + 1) =
              others.foldl (fun count bucket => count + bucket.2.length) count + 1 := by
          induction others generalizing count with
          | nil => rfl
          | cons other others step =>
              rw [List.foldl_cons, List.foldl_cons, Nat.add_right_comm, step]
        rw [List.foldl_cons, List.foldl_cons, List.length_append, ← Nat.add_assoc]
        exact shifted _ rest
      · rw [List.foldl_cons, List.foldl_cons, ih]

theorem size_foldl_attempt (entries : List StepEntry) (registry : Registry) :
    (entries.foldl attempt registry).size = registry.size + (added entries).length := by
  induction entries generalizing registry with
  | nil => rfl
  | cons entry rest ih =>
      rw [List.foldl_cons, ih]
      cases defined : define entry with
      | error fault =>
          rw [attempt_of_error defined]
          simp [added, defined, Except.toOption]
      | ok definition =>
          have grown : (registry.register definition).size = registry.size + 1 :=
            foldl_length_insert definition registry.buckets 0
          rw [attempt_of_ok defined, grown]
          simp [added, defined, Except.toOption]
          omega

theorem mem_addedUnder {entries : List StepEntry} {entry : StepEntry}
    {definition : StepDefinition} (among : entry ∈ entries)
    (defined : define entry = .ok definition) :
    definition ∈ addedUnder entry.verb.lower entries := by
  unfold addedUnder added
  refine List.mem_filterMap.mpr ⟨entry, List.mem_filter.mpr ⟨among, ?_⟩, ?_⟩
  · exact decide_eq_true rfl
  · rw [defined]
    rfl

/-- Lookup as a function of the history.  Whatever was attempted, the candidates for a verb are the
definitions added under the same verb in lower case and then those added under the wildcard verb,
each in order; a step finds the first of them whose pattern matches, and nothing if no pattern
does; and there are as many definitions as were added.  All spellings of a verb are alike. -/
theorem afterAttempts_lookup (entries : List StepEntry) (verb text : Text) :
    (afterAttempts entries).candidates verb = tried entries verb ∧
    (∀ definition found, (afterAttempts entries).find verb text = some (definition, found) ↔
      ∃ earlier later, tried entries verb = earlier ++ definition :: later ∧
        definition.pattern.search text = some found ∧
        ∀ other ∈ earlier, other.pattern.search text = none) ∧
    ((afterAttempts entries).find verb text = none ↔
      ∀ definition ∈ tried entries verb, definition.pattern.search text = none) ∧
    (afterAttempts entries).size = (added entries).length ∧
    (∀ entry ∈ entries, ∀ definition, define entry = .ok definition →
      entry.verb.lower = verb.lower →
        definition ∈ (afterAttempts entries).candidates verb) ∧
    (∀ spelling, spelling.lower = verb.lower →
      (afterAttempts entries).candidates spelling = (afterAttempts entries).candidates verb ∧
      (afterAttempts entries).find spelling text = (afterAttempts entries).find verb text) := by
  have candidates := candidates_afterAttempts entries verb
  refine ⟨candidates, ?_, ?_, ?_, ?_, ?_⟩
  · intro definition found
    rw [find, candidates]
    exact firstMatch_eq_some_iff
  · rw [find, candidates]
    exact firstMatch_eq_none_iff
  · exact (size_foldl_attempt entries empty).trans (Nat.zero_add _)
  · intro entry among definition defined same
    rw [candidates, tried, ← same]
    exact List.mem_append_left _ (mem_addedUnder among defined)
  · intro spelling same
    have alike : (afterAttempts entries).candidates spelling =
        (afterAttempts entries).candidates verb := by
      rw [candidates, candidates_afterAttempts, tried, tried, same]
    rw [find, find, alike]
    exact ⟨rfl, rfl⟩

/-- After a failed attempt between two others, a definition that was added under a verb in upper
case with a sigma at its end is a candidate for the verb in lower case, ahead of one that was
added under the wildcard verb before it. -/
theorem afterAttempts_lookup_sigma :
    let passing : Action := ⟨.either, .done⟩
    let wild : StepEntry := ⟨"Step".toList, .text "go".toList, .action passing⟩
    let refused : StepEntry := ⟨"ος".toList, .text "go".toList, .other .null⟩
    let own : StepEntry := ⟨"ΟΣ".toList, .text "go".toList, .action passing⟩
    let entries := [wild, refused, own]
    let verb : Text := "ος".toList
    own ∈ entries ∧ define own = .ok ⟨own.verb.lower, own.pattern.compile, passing⟩ ∧
      own.verb.lower = verb.lower ∧
      ⟨own.verb.lower, own.pattern.compile, passing⟩ ∈ (afterAttempts entries).candidates verb ∧
      ((afterAttempts entries).candidates verb).map StepDefinition.verb = [verb, wildcardVerb] ∧
      (afterAttempts entries).candidates own.verb = (afterAttempts entries).candidates verb ∧
      (afterAttempts entries).size = 2 := by
  intro passing wild refused own entries verb
  have among : own ∈ entries := by
    simp [entries]
  have same : own.verb.lower = verb.lower := by
    decide +kernel
  have inOrder : ((afterAttempts entries).candidates verb).map StepDefinition.verb =
      [verb, wildcardVerb] := by
    decide +kernel
  obtain ⟨-, -, -, size, candidate, alike⟩ := afterAttempts_lookup entries verb []
  exact ⟨among, rfl, same, candidate own among _ rfl same, inOrder, (alike own.verb same).1,
    size⟩

end FeatureRunner.Registry
