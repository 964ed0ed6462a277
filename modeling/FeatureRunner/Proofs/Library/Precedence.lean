import FeatureRunner.Command.Session
import FeatureRunner.Proofs.Library.Loading
import FeatureRunner.Proofs.Registry.Additions
import FeatureRunner.Proofs.Registry.FailedAdditions
import Mathlib.Algebra.GroupWithZero.Nat

/-!
# Precedence of libraries

The definitions of several libraries are registered one library after the other.  Every library that
was loaded can be registered, since loading has made sure that all its actions can be called.

For a step, the definitions of its own verb come first, and those of the wildcard verb after them.
Within each of the two, an earlier library comes before a later one, and in a library an earlier
entry before a later one.
-/

namespace FeatureRunner

namespace StepEntry

/-- An entry is found in a text under a verb. -/
def IsFound (entry : StepEntry) (lowered text : Text) (found : PatternMatch) : Prop :=
  entry.verb.lower = lowered ∧ entry.pattern.compile.search text = some found

/-- An entry is of another verb, or it is not found in a text. -/
def Misses (entry : StepEntry) (lowered text : Text) : Prop :=
  entry.verb.lower = lowered → entry.pattern.compile.search text = none

end StepEntry

/-- No entry of any library is found in a text under a verb. -/
def AllMiss (libraries : List (List StepEntry)) (lowered text : Text) : Prop :=
  ∀ library ∈ libraries, ∀ entry ∈ library, entry.Misses lowered text

/-- An entry is the first that is found in a text under a verb: no earlier library has one, and in
its own library no earlier entry is one. -/
def ComesFirst (libraries : List (List StepEntry)) (lowered text : Text) (entry : StepEntry)
    (found : PatternMatch) : Prop :=
  ∃ front library back before after, libraries = front ++ library :: back ∧
    library = before ++ entry :: after ∧ entry.IsFound lowered text found ∧
    AllMiss front lowered text ∧ ∀ other ∈ before, other.Misses lowered text

namespace Registry

open StepEntry

/-- What an entry gives for a text under a verb. -/
def hit? (lowered text : Text) (entry : StepEntry) : Option (StepDefinition × PatternMatch) :=
  if entry.verb.lower = lowered then
    (define entry).toOption.bind fun definition =>
      (definition.pattern.search text).map (definition, ·)
  else none

theorem foundUnder_eq_findSome? (lowered text : Text) (entries : List StepEntry) :
    foundUnder lowered entries text = entries.findSome? (hit? lowered text) := by
  induction entries with
  | nil => rfl
  | cons entry rest ih =>
      rw [foundUnder, addedUnder_cons, firstMatch_append, ← foundUnder, ih, List.findSome?_cons,
        hit?]
      by_cases under : entry.verb.lower = lowered
      · rw [if_pos under, if_pos under]
        cases (define entry).toOption with
        | none => rfl
        | some definition =>
            rw [Option.toList_some, firstMatch_singleton, Option.bind_some]
            cases definition.pattern.search text <;> rfl
      · rw [if_neg under, if_neg under]
        rfl

variable {lowered text : Text} {definition : StepDefinition} {found : PatternMatch}

theorem hit?_of_misses {entry : StepEntry} (misses : entry.Misses lowered text) :
    hit? lowered text entry = none := by
  unfold hit?
  split
  · next under =>
    cases defined : define entry with
    | error fault => rfl
    | ok made =>
        rw [Except.toOption, Option.bind_some, (define_eq_ok defined).2.1, misses under]
        rfl
  · rfl

theorem hit?_eq_some_iff {entry : StepEntry} :
    hit? lowered text entry = some (definition, found) ↔
      define entry = .ok definition ∧ entry.IsFound lowered text found := by
  unfold hit?
  constructor
  · intro hits
    split at hits
    · next under =>
      obtain ⟨made, defined, searched⟩ := Option.bind_eq_some_iff.mp hits
      obtain ⟨match_, searches, same⟩ := Option.map_eq_some_iff.mp searched
      cases same
      cases outcome : define entry with
      | error fault =>
          rw [outcome] at defined
          cases defined
      | ok other =>
          rw [outcome] at defined
          cases defined
          exact ⟨rfl, under, (define_eq_ok outcome).2.1 ▸ searches⟩
    · cases hits
  · rintro ⟨defined, under, searches⟩
    rw [← (define_eq_ok defined).2.1] at searches
    rw [if_pos under, defined, Except.toOption, Option.bind_some, searches]
    rfl

/-- An entry that can be called gives nothing only if it misses. -/
theorem misses_of_hit? {entry : StepEntry} (callable : entry.isCallable = true)
    (nothing : hit? lowered text entry = none) : entry.Misses lowered text := by
  intro under
  obtain ⟨made, defined⟩ := exists_define_of_isCallable callable
  cases searched : entry.pattern.compile.search text with
  | none => rfl
  | some match_ =>
      rw [hit?_eq_some_iff.mpr ⟨defined, under, searched⟩] at nothing
      cases nothing

section Libraries

variable {libraries : List (List StepEntry)}

theorem foundUnder_flatten (lowered text : Text) (libraries : List (List StepEntry)) :
    foundUnder lowered libraries.flatten text =
      libraries.findSome? fun library => library.findSome? (hit? lowered text) := by
  rw [foundUnder_eq_findSome?]
  induction libraries with
  | nil => rfl
  | cons library rest ih =>
      rw [List.flatten_cons, List.findSome?_append, ih, List.findSome?_cons]
      cases library.findSome? (hit? lowered text) <;> rfl

variable (callable : ∀ library ∈ libraries, ∀ entry ∈ library, entry.isCallable = true)

include callable

theorem findSome?_hit?_eq_none_iff {library : List StepEntry} (among : library ∈ libraries) :
    library.findSome? (hit? lowered text) = none ↔
      ∀ entry ∈ library, entry.Misses lowered text := by
  rw [List.findSome?_eq_none_iff]
  constructor
  · exact fun nothing entry member =>
      misses_of_hit? (callable library among entry member) (nothing entry member)
  · exact fun misses entry member => hit?_of_misses (misses entry member)

theorem foundUnder_eq_none_iff :
    foundUnder lowered libraries.flatten text = none ↔ AllMiss libraries lowered text := by
  rw [foundUnder_flatten, List.findSome?_eq_none_iff]
  exact forall₂_congr fun library among => findSome?_hit?_eq_none_iff callable among

theorem foundUnder_eq_some_iff :
    foundUnder lowered libraries.flatten text = some (definition, found) ↔
      ∃ entry, define entry = .ok definition ∧ ComesFirst libraries lowered text entry found := by
  rw [foundUnder_flatten, List.findSome?_eq_some_iff]
  constructor
  · rintro ⟨front, library, back, rfl, hits, nothing⟩
    obtain ⟨before, entry, after, rfl, here, earlier⟩ := List.findSome?_eq_some_iff.mp hits
    obtain ⟨defined, isFound⟩ := hit?_eq_some_iff.mp here
    refine ⟨entry, defined, front, _, back, before, after, rfl, rfl, isFound, ?_, ?_⟩
    · exact fun other ahead =>
        (findSome?_hit?_eq_none_iff callable (List.mem_append_left _ ahead)).mp
          (nothing other ahead)
    · intro other ahead
      have among : before ++ entry :: after ∈ front ++ (before ++ entry :: after) :: back :=
        List.mem_append_right _ List.mem_cons_self
      have within : other ∈ before ++ entry :: after := List.mem_append_left _ ahead
      exact misses_of_hit? (callable _ among other within) (earlier other ahead)
  · rintro ⟨entry, defined, front, library, back, before, after, rfl, rfl, isFound, allMiss,
      earlier⟩
    refine ⟨front, _, back, rfl, ?_, ?_⟩
    · exact List.findSome?_eq_some_iff.mpr ⟨before, entry, after, rfl,
        hit?_eq_some_iff.mpr ⟨defined, isFound⟩,
        fun other ahead => hit?_of_misses (earlier other ahead)⟩
    · exact fun other ahead => (findSome?_hit?_eq_none_iff callable
        (List.mem_append_left _ ahead)).mpr (allMiss other ahead)

/-- Registering libraries whose actions can all be called never fails, and leaves out no entry. -/
theorem addAll_flatten :
    (Registry.empty.addAll libraries.flatten).1 = afterAttempts libraries.flatten ∧
      (Registry.empty.addAll libraries.flatten).2.2 = none ∧
      (Registry.empty.addAll libraries.flatten).1.size = (libraries.map List.length).sum := by
  have all : ∀ entry ∈ libraries.flatten, entry.isCallable = true := by
    intro entry member
    obtain ⟨library, among, within⟩ := List.mem_flatten.mp member
    exact callable library among entry within
  have registered :
      (Registry.empty.addAll libraries.flatten).1 = afterAttempts libraries.flatten := by
    rw [addAll_eq, callablePrefix_eq_self all]
    rfl
  have size := size_foldl_attempt libraries.flatten Registry.empty
  rw [length_added_of_callable all, List.length_flatten] at size
  refine ⟨registered, ?_, ?_⟩
  · rw [addAll_eq]
    exact firstRefusal?_eq_none_iff.mpr all
  · rw [registered]
    exact size.trans (Nat.zero_add _)

/-- What is found for a step after the libraries were registered. -/
theorem find_flatten_eq_some_iff {verb : Text} :
    (afterAttempts libraries.flatten).find verb text = some (definition, found) ↔
      ∃ entry, define entry = .ok definition ∧
        (ComesFirst libraries verb.lower text entry found ∨
          AllMiss libraries verb.lower text ∧
            ComesFirst libraries wildcardVerb text entry found) := by
  rw [find_afterAttempts, Option.or_eq_some_iff, foundUnder_eq_some_iff callable,
    foundUnder_eq_none_iff callable]
  constructor
  · rintro (⟨entry, defined, first⟩ | ⟨allMiss, wild⟩)
    · exact ⟨entry, defined, .inl first⟩
    · split at wild
      · cases wild
      · obtain ⟨entry, defined, first⟩ := (foundUnder_eq_some_iff callable).mp wild
        exact ⟨entry, defined, .inr ⟨allMiss, first⟩⟩
  · rintro ⟨entry, defined, first | ⟨allMiss, first⟩⟩
    · exact .inl ⟨entry, defined, first⟩
    · have wild := (foundUnder_eq_some_iff callable).mpr ⟨entry, defined, first⟩
      refine .inr ⟨allMiss, ?_⟩
      split
      · next isWildcard =>
        -- A step of the wildcard verb itself has no second chance, and needs none.
        rw [← isWildcard, (foundUnder_eq_none_iff callable).mpr allMiss] at wild
        cases wild
      · exact wild

theorem find_flatten_eq_none_iff {verb : Text} :
    (afterAttempts libraries.flatten).find verb text = none ↔
      AllMiss libraries verb.lower text ∧ AllMiss libraries wildcardVerb text := by
  rw [find_afterAttempts, Option.or_eq_none_iff, foundUnder_eq_none_iff callable]
  refine and_congr_right fun allMiss => ?_
  split
  · next isWildcard =>
    rw [isWildcard] at allMiss
    exact iff_of_true rfl allMiss
  · exact foundUnder_eq_none_iff callable

end Libraries

end Registry

open Registry

theorem Exposed.isCallable_of_written {entries : List Exposed} {steps : List StepEntry}
    (written : List.Forall₂ Exposed.Writes entries steps) :
    ∀ step ∈ steps, step.isCallable = true := by
  induction written with
  | nil => exact nofun
  | cons writes _ ih =>
      obtain ⟨callable, handled, -⟩ := writes
      refine List.forall_mem_cons.mpr ⟨?_, ih⟩
      rw [StepEntry.isCallable, handled]

/-- Loading makes sure that every action can be called. -/
theorem StepModules.isCallable_of_loadSteps {modules : StepModules} {name : Text}
    {steps : List StepEntry} (loaded : modules.loadSteps name = .ok steps) :
    ∀ step ∈ steps, step.isCallable = true := by
  cases loadSteps_eq_iff.mp loaded with
  | accepted exposes written => exact Exposed.isCallable_of_written written

namespace World

variable {world : World} {names : List Text} {libraries : List (List StepEntry)}

/-- The libraries of names are the ones that loading them gives. -/
def LoadsAll (world : World) (names : List Text) (libraries : List (List StepEntry)) : Prop :=
  List.Forall₂ (fun name steps => world.modules.loadSteps name = .ok steps) names libraries

theorem LoadsAll.isCallable (loads : world.LoadsAll names libraries) :
    ∀ library ∈ libraries, ∀ entry ∈ library, entry.isCallable = true := by
  induction loads with
  | nil => exact nofun
  | cons loaded _ ih =>
      exact List.forall_mem_cons.mpr ⟨StepModules.isCallable_of_loadSteps loaded, ih⟩

/-- The stage of the libraries puts their definitions one after the other. -/
theorem LoadsAll.libraryStage_eq (loads : world.LoadsAll names libraries) (options : RunOptions) :
    (world.libraryStage options names).1 = .ok libraries.flatten := by
  induction loads with
  | nil => rfl
  | @cons name steps rest others loaded _ ih =>
      rw [libraryStage, loaded, List.flatten_cons]
      simp only [ih]
      rfl

/-- Libraries that were loaded can always be registered, and take precedence in order.  No entry is
left out.  The definition that a step finds is that of the first entry of its own verb that is found
in its text, in the order of the libraries and of the entries in each; and if there is none, that of
the first such entry of the wildcard verb.  So a definition of the wildcard verb gives way to one of
the verb itself, however late its library comes. -/
theorem libraries_takePrecedence (loads : world.LoadsAll names libraries) (options : RunOptions)
    (extraFields : Bool) (observer : Observer) :
    let registered := Dispatcher.addSteps ⟨.empty, extraFields⟩ observer libraries.flatten
    let registry := registered.1.registry
    (world.libraryStage options names).1 = .ok libraries.flatten ∧
      registered.2.2 = none ∧ registry.size = (libraries.map List.length).sum ∧
      (∀ verb text definition found, registry.find verb text = some (definition, found) ↔
        ∃ entry, define entry = .ok definition ∧
          (ComesFirst libraries verb.lower text entry found ∨
            AllMiss libraries verb.lower text ∧
              ComesFirst libraries wildcardVerb text entry found)) ∧
      (∀ verb text, registry.find verb text = none ↔
        AllMiss libraries verb.lower text ∧ AllMiss libraries wildcardVerb text) ∧
      ∀ verb text, ¬ AllMiss libraries verb.lower text →
        ∃ definition found, registry.find verb text = some (definition, found) ∧
          definition.verb = verb.lower := by
  intro registered registry
  have callable := loads.isCallable
  obtain ⟨inOrder, succeeds, size⟩ := addAll_flatten callable
  have same : registry = afterAttempts libraries.flatten := inOrder
  refine ⟨loads.libraryStage_eq options, succeeds, size, ?_, ?_, ?_⟩
  · intro verb text definition found
    rw [same]
    exact find_flatten_eq_some_iff callable
  · intro verb text
    rw [same]
    exact find_flatten_eq_none_iff callable
  · intro verb text notAll
    rw [same, find_afterAttempts]
    cases own : foundUnder verb.lower libraries.flatten text with
    | none => exact absurd ((foundUnder_eq_none_iff callable).mp own) notAll
    | some first => exact ⟨first.1, first.2, rfl, verb_of_foundUnder own⟩

/-- Of three libraries, the last has a definition of the verb itself, which is found ahead of the
two of the wildcard verb; for another verb the one of the earlier library is found. -/
theorem libraries_takePrecedence_own :
    let early : Action := ⟨.one, .done⟩
    let late : Action := ⟨.two, .done⟩
    let entry (verb : String) (action : Action) : Exposed :=
      .list [.value (.text verb.toList), .value (.text "go".toList), .action action]
    let step (verb : String) (action : Action) : StepEntry :=
      ⟨verb.toList, .text "go".toList, .action action⟩
    let exposing (steps : List Exposed) : StepModule := .exposing (some (.list steps))
    let world : World := ⟨⟨[], [], fun _ => .error .missing⟩,
      [(['a'], exposing [entry "Step" early]), (['b'], exposing [entry "STEP" late]),
        (['c'], exposing [entry "Given" late])], []⟩
    let libraries := [[step "Step" early], [step "STEP" late], [step "Given" late]]
    let registered := Dispatcher.addSteps ⟨.empty, false⟩ (.start .silent) libraries.flatten
    let registry := registered.1.registry
    world.LoadsAll [['a'], ['b'], ['c']] libraries ∧
      ¬ AllMiss libraries "given".toList "go on".toList ∧
      registry.size = 3 ∧
      (∃ definition found, registry.find "given".toList "go on".toList = some (definition, found) ∧
        definition.verb = "given".toList) ∧
      ∃ definition found, registry.find "then".toList "go on".toList = some (definition, found) ∧
        definition.action.arity = .one := by
  intro early late entry step exposing world libraries registered registry
  have loads : world.LoadsAll [['a'], ['b'], ['c']] libraries :=
    .cons rfl (.cons rfl (.cons rfl .nil))
  have searched : (PatternSource.text "go".toList).compile.search "go on".toList =
      some ⟨0, 2, []⟩ := by decide +kernel
  have given : (step "Given" late).verb.lower = Text.lower "given".toList := by decide +kernel
  have wild : (step "Step" early).verb.lower = wildcardVerb := by decide +kernel
  have notAll : ¬ AllMiss libraries (Text.lower "given".toList) "go on".toList := by
    intro allMiss
    have misses := allMiss [step "Given" late] (by simp [libraries]) _ (List.mem_singleton_self _)
    rw [misses given] at searched
    cases searched
  -- No library has a definition of this verb.
  have allMiss : AllMiss libraries (Text.lower "then".toList) "go on".toList := by
    have others : ∀ library ∈ libraries, ∀ other ∈ library,
        other.verb.lower ≠ Text.lower "then".toList := by decide +kernel
    exact fun library among other member under => absurd under (others library among other member)
  have first : ComesFirst libraries wildcardVerb "go on".toList (step "Step" early) ⟨0, 2, []⟩ :=
    ⟨[], _, _, [], [], rfl, rfl, ⟨wild, searched⟩, nofun, nofun⟩
  obtain ⟨-, -, size, finds, -, own⟩ := libraries_takePrecedence loads
    ⟨[], [['a'], ['b'], ['c']], none, none⟩ false (.start .silent)
  have lowered : Text.lower "given".toList = "given".toList := by decide +kernel
  obtain ⟨definition, found, isFound, under⟩ := own "given".toList "go on".toList notAll
  refine ⟨loads, lowered ▸ notAll, size, ⟨definition, found, isFound, under.trans lowered⟩, ?_⟩
  have taken := (finds "then".toList "go on".toList
    ⟨(step "Step" early).verb.lower, (step "Step" early).pattern.compile, early⟩ ⟨0, 2, []⟩).mpr
      ⟨step "Step" early, rfl, .inr ⟨allMiss, first⟩⟩
  exact ⟨_, _, taken, rfl⟩

end World

end FeatureRunner
