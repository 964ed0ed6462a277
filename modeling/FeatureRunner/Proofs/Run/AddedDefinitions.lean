import FeatureRunner.Proofs.Registry.Additions
import FeatureRunner.Proofs.Run.StepEnds

/-!
# Runs with more definitions

Definitions of the wildcard verb at the end of a library come last for every step.  So a step that
finds a definition without them takes the same course with them, and a run in which every step finds
one goes the same way: with the same events, results and stashes.

This file proves it along the moves of a run.  A step that finds no definition ends as undefined, so
it is enough that no step is told to end so.
-/

namespace FeatureRunner

namespace Dispatcher

/-- A dispatcher extends another if it finds what the other one finds, and runs it the same way. -/
structure Extends (extended dispatcher : Dispatcher) : Prop where
  mode : extended.mode = dispatcher.mode
  finds : ∀ verb text found, dispatcher.registry.find verb text = some found →
    extended.registry.find verb text = some found

/-- A library that goes on with definitions of the wildcard verb finds what it found without them.
-/
theorem addSteps_append_extends {more : List StepEntry}
    (wild : ∀ entry ∈ more, entry.verb.lower = wildcardVerb) (dispatcher : Dispatcher)
    (observer : Observer) (library : List StepEntry) :
    Extends (dispatcher.addSteps observer (library ++ more)).1
      (dispatcher.addSteps observer library).1 where
  mode := rfl
  finds _ _ _ finds := Registry.find_addAll_append_of_some wild finds

variable {extended dispatcher : Dispatcher} (extension : Extends extended dispatcher)

include extension

theorem invokedCourse_eq_of_extends (context : StepContext) (definition : StepDefinition)
    (found : PatternMatch) :
    extended.invokedCourse context definition found =
      dispatcher.invokedCourse context definition found := by
  obtain ⟨registry, mode⟩ := dispatcher
  obtain ⟨extendedRegistry, extendedMode⟩ := extended
  obtain rfl : extendedMode = mode := extension.mode
  rfl

theorem courseOf_eq_of_extends {shortCircuit : Bool} {context : StepContext}
    (defined : ∀ result, (dispatcher.courseOf shortCircuit context).outcome = .ok result →
      result.status ≠ .undefined) :
    extended.courseOf shortCircuit context = dispatcher.courseOf shortCircuit context := by
  unfold courseOf at defined ⊢
  cases shortCircuit with
  | true => rfl
  | false =>
      cases sought : dispatcher.registry.find context.verb context.text with
      | none =>
          -- Nothing found would have ended the step as undefined.
          rw [sought] at defined
          exact absurd rfl (defined _ rfl)
      | some found =>
          rw [extension.finds _ _ _ sought]
          exact invokedCourse_eq_of_extends extension context found.1 found.2

theorem stepCourse_eq_of_extends {row : Record} {step : Step} {standing : Standing}
    (defined : ∀ result, (dispatcher.stepCourse row step standing).outcome = .ok result →
      result.status ≠ .undefined) :
    extended.stepCourse row step standing = dispatcher.stepCourse row step standing := by
  unfold stepCourse at defined ⊢
  cases expanded : Template.expand step.text row with
  | ok text =>
      rw [expanded] at defined
      exact courseOf_eq_of_extends extension defined
  | error unresolved => rfl

theorem passage_eq_of_extends {move : Move} {standing : Standing}
    (defined : ∀ ending ∈ (dispatcher.passage move standing).events.stepEnds,
      ending.result.status ≠ .undefined) :
    extended.passage move standing = dispatcher.passage move standing := by
  have sameObstacle := obstacle?_eq_of_mode extension.mode move
  cases obstacle : dispatcher.obstacle? move with
  | some failure =>
      rw [dispatcher.passage_of_obstacle obstacle,
        extended.passage_of_obstacle (sameObstacle.trans obstacle)]
  | none =>
    rw [dispatcher.passage_of_ready obstacle,
      extended.passage_of_ready (sameObstacle.trans obstacle)]
    cases move with
    | openRow sharing scenario row => rfl
    | closeRow scenario row => rfl
    | step row step =>
        have same : extended.stepCourse row step standing =
            dispatcher.stepCourse row step standing := by
          refine stepCourse_eq_of_extends extension fun result returns => ?_
          rw [dispatcher.events_passage_step obstacle, StepCourse.stepEnds_events,
            returns] at defined
          exact defined _ List.mem_cons_self
        rw [readyPassage, readyPassage, stepPassage, stepPassage, same]

/-- The walk through moves is the same if no step is told to end as undefined. -/
theorem walk_eq_of_extends {moves : List Move} {standing : Standing}
    (defined : ∀ ending ∈ (dispatcher.walk moves standing).events.stepEnds,
      ending.result.status ≠ .undefined) :
    extended.walk moves standing = dispatcher.walk moves standing := by
  induction moves generalizing standing with
  | nil => rfl
  | cons move rest ih =>
      cases moved : (dispatcher.passage move standing).outcome with
      | error abort =>
          rw [dispatcher.walk_cons_of_error moved] at defined ⊢
          have first := passage_eq_of_extends extension defined
          rw [extended.walk_cons_of_error (first ▸ moved), first]
      | ok results =>
          rw [dispatcher.walk_cons_of_ok moved] at defined ⊢
          simp only [Journal.stepEnds_append, List.forall_mem_append] at defined
          have first := passage_eq_of_extends extension defined.1
          rw [extended.walk_cons_of_ok (first ▸ moved), first, ih defined.2]

theorem featurePassage_eq_of_extends {selection : Selection} {feature : Feature}
    {standing : Standing}
    (defined : ∀ ending ∈ (dispatcher.featurePassage selection feature standing).events.stepEnds,
      ending.result.status ≠ .undefined) :
    extended.featurePassage selection feature standing =
      dispatcher.featurePassage selection feature standing := by
  rw [stepEnds_featurePassage] at defined
  have same : extended.featureWalk selection feature standing =
      dispatcher.featureWalk selection feature standing := walk_eq_of_extends extension defined
  cases ending : (dispatcher.featureWalk selection feature standing).outcome with
  | error abort =>
      rw [featurePassage_of_error ending, featurePassage_of_error (same ▸ ending), same]
  | ok results => rw [featurePassage_of_ok ending, featurePassage_of_ok (same ▸ ending), same]

/-- A run in which no step is told to end as undefined goes the same way with more definitions. -/
theorem runFeature_eq_of_extends (selection : Selection) (feature : Feature) (state : RunState) :
    let ran := (dispatcher.runFeature selection feature).run state
    let ranExtended := (extended.runFeature selection feature).run state
    ∃ events : Journal,
      ran.2.observer.journal.events = state.observer.journal.events ++ events ∧
      ((∀ ending ∈ events.stepEnds, ending.result.status ≠ .undefined) →
        ranExtended.1 = ran.1 ∧ ranExtended.2.standing = ran.2.standing ∧
          ranExtended.2.observer.Agrees ran.2.observer) := by
  intro ran ranExtended
  obtain ⟨observer, grown, told, runs⟩ :=
    dispatcher.exists_told_runFeature selection feature state
  obtain ⟨other, grownExtended, toldExtended, runsExtended⟩ :=
    extended.exists_told_runFeature selection feature state
  refine ⟨_, (congrArg (·.2.observer.journal.events) runs).trans grown, fun defined => ?_⟩
  have same := featurePassage_eq_of_extends extension defined
  rw [same] at grownExtended toldExtended runsExtended
  rw [show ran = _ from runs, show ranExtended = _ from runsExtended]
  exact ⟨rfl, rfl, grownExtended.trans grown.symm,
    Option.some.inj (toldExtended.symm.trans told)⟩

end Dispatcher

/-- The exact effect of more definitions.  After any attempts to add definitions, one more changes
what a step finds exactly if it is found in the text of the step and the step yields to it; then the
step finds it.  And where a library goes on with definitions of the wildcard verb, every run of a
feature in which no step ends as undefined is the same as without them. -/
theorem additions_exactEffect :
    (∀ (entries : List StepEntry) (entry : StepEntry) (definition : StepDefinition)
        (verb text : Text),
      Registry.define entry = .ok definition →
        let before := (Registry.afterAttempts entries).find verb text
        let after := (Registry.afterAttempts (entries ++ [entry])).find verb text
        (after ≠ before ↔
          (∃ found, definition.pattern.search text = some found) ∧
            Registry.Yields before entry.verb verb) ∧
        (after ≠ before → ∃ found, definition.pattern.search text = some found ∧
          after = some (definition, found))) ∧
    ∀ (dispatcher : Dispatcher) (observer : Observer) (library more : List StepEntry),
      (∀ entry ∈ more, entry.verb.lower = wildcardVerb) →
      ∀ (selection : Selection) (feature : Feature) (state : RunState),
        let ran := ((dispatcher.addSteps observer library).1.runFeature selection feature).run state
        let ranWithMore :=
          ((dispatcher.addSteps observer (library ++ more)).1.runFeature selection feature).run
            state
        ∃ events : Journal,
          ran.2.observer.journal.events = state.observer.journal.events ++ events ∧
          ((∀ ending ∈ events.stepEnds, ending.result.status ≠ .undefined) →
            ranWithMore.1 = ran.1 ∧ ranWithMore.2.standing = ran.2.standing ∧
              ranWithMore.2.observer.Agrees ran.2.observer) := by
  constructor
  · intro entries entry definition verb text defined
    exact Registry.find_append_ne_iff defined verb text
  · intro dispatcher observer library more wild selection feature state
    exact Dispatcher.runFeature_eq_of_extends
      (Dispatcher.addSteps_append_extends wild dispatcher observer library) selection feature state

/-- A definition of the verb itself takes a step from one of the wildcard verb that was there before
it, and one of the wildcard verb that comes at the end changes nothing in a run. -/
theorem additions_exactEffect_wildcard :
    let action : Action := ⟨.either, .done⟩
    let wild : StepEntry := ⟨"Step".toList, .text "go".toList, .action action⟩
    let own : StepEntry := ⟨"Given".toList, .text "GO".toList, .action action⟩
    let added : StepDefinition := ⟨own.verb.lower, own.pattern.compile, action⟩
    let feature : Feature :=
      ⟨[], [⟨[], [⟨"given".toList, "go on".toList, .null, .null⟩], [], false, []⟩], none, []⟩
    let begun : RunState := ⟨.start .silent, [], [], .idle⟩
    let run (library : List StepEntry) := (((Dispatcher.mk .empty false).addSteps
      (.start .silent) library).1.runFeature .everything feature).run begun
    Registry.define own = .ok added ∧
      (∃ found, (Registry.afterAttempts ([wild] ++ [own])).find "given".toList "go on".toList =
        some (added, found)) ∧
      (∀ entry ∈ [wild], entry.verb.lower = wildcardVerb) ∧
      (run ([own] ++ [wild])).1 = (run [own]).1 := by
  intro action wild own added feature begun run
  obtain ⟨effect, frame⟩ := additions_exactEffect
  have searched : added.pattern.search "go on".toList = some ⟨0, 2, []⟩ := by decide +kernel
  have before : (Registry.afterAttempts [wild]).find "given".toList "go on".toList =
      some (⟨wild.verb.lower, wild.pattern.compile, action⟩, ⟨0, 2, []⟩) := rfl
  have isWild : wild.verb.lower = wildcardVerb := by decide +kernel
  have same : own.verb.lower = Text.lower "given".toList := by decide +kernel
  have notWild : Text.lower "given".toList ≠ wildcardVerb := by decide +kernel
  have allWild : ∀ entry ∈ [wild], entry.verb.lower = wildcardVerb :=
    List.forall_mem_singleton.mpr isWild
  refine ⟨rfl, ?_, allWild, ?_⟩
  · obtain ⟨changes, takes⟩ := effect [wild] own added "given".toList "go on".toList rfl
    have yields : Registry.Yields
        ((Registry.afterAttempts [wild]).find "given".toList "go on".toList) own.verb
          "given".toList := .inr ⟨_, _, before, isWild, same, notWild⟩
    obtain ⟨found, -, finds⟩ := takes (changes.mpr ⟨⟨_, searched⟩, yields⟩)
    exact ⟨found, finds⟩
  · obtain ⟨events, grown, kept⟩ := frame ⟨.empty, false⟩ (.start .silent) [own] [wild] allWild
      .everything feature begun
    have statuses : (run [own]).2.observer.journal.events.stepEnds.map (·.result.status) =
        [.passing] := by decide +kernel
    rw [show (run [own]).2.observer.journal.events = events from grown] at statuses
    refine (kept fun ending told => ?_).1
    have status := List.mem_map_of_mem (f := fun ending => ending.result.status) told
    rw [statuses] at status
    rw [List.mem_singleton.mp status]
    decide

end FeatureRunner
