import FeatureRunner.Proofs.Recorder.Calls
import FeatureRunner.Proofs.Registry.History
import FeatureRunner.Proofs.Run.Walk
import FeatureRunner.Proofs.Template.Grammar

/-!
# Which way a step goes

A step that is not held up goes one of four ways.  It is skipped if the short circuit is armed,
whatever else is the matter with it.  Otherwise it fails if the row has no value for one of its
names, it is undefined if no candidate matches its text, and else the action of the first candidate
that matches is invoked.  A step is held up, armed or not, if a value for its text cannot be shown
or its data cannot be copied; then the run ends with this failure.

The conditions of the ways are said without the run, and exclude each other.  This file proves that
every run of a step goes the one way whose conditions hold: only on the last way is there an
invocation, exactly one, and on the others the run stands afterwards where it stood.
-/

namespace FeatureRunner

/-- The ways that a step can go. -/
inductive StepWay where
  | held (failure : Failure)
  | skipped
  | unresolved (name : Text)
  | undefined (text : Text)
  | invoked (text : Text) (definition : StepDefinition) (found : PatternMatch)

open Template in
/-- A step that is not held up and whose text is not filled in has a name without a value. -/
theorem Step.firstUnfilled_of_ready {row : Record} (step : Step) {unfilled : UnfilledPlaceholder}
    (ready : step.obstacle? row = none) (fails : expand step.text row = .error unfilled) :
    FirstUnfilled row (placeholders (tokens step.text)) unfilled.placeholder .missing := by
  obtain ⟨-, first⟩ := expand_eq_error_iff.mp fails
  obtain ⟨name, text, _ | flaw⟩ := unfilled
  · exact first
  · simp [obstacle?, fails] at ready

namespace StepWay

open Template

/-- The conditions of the ways, for a step and a row. -/
inductive IsOpen (registry : Registry) (row : Record) (step : Step) (armed : Bool) :
    StepWay → Prop where
  | held {failure : Failure} (obstacle : step.obstacle? row = some failure) :
      IsOpen registry row step armed (.held failure)
  | skipped (ready : step.obstacle? row = none) (skips : armed = true) :
      IsOpen registry row step armed .skipped
  | unresolved {name : Text} (ready : step.obstacle? row = none) (idle : armed = false)
      (missing : FirstUnfilled row (placeholders (tokens step.text)) name .missing) :
      IsOpen registry row step armed (.unresolved name)
  | undefined {text : Text} (ready : step.obstacle? row = none) (idle : armed = false)
      (filled : expand step.text row = .ok text)
      (unmatched : ∀ definition ∈ registry.candidates step.verb,
        definition.pattern.search text = none) :
      IsOpen registry row step armed (.undefined text)
  | invoked {text : Text} {earlier later : List StepDefinition} {definition : StepDefinition}
      {found : PatternMatch} (ready : step.obstacle? row = none) (idle : armed = false)
      (filled : expand step.text row = .ok text)
      (tried : registry.candidates step.verb = earlier ++ definition :: later)
      (unmatched : ∀ other ∈ earlier, other.pattern.search text = none)
      (matched : definition.pattern.search text = some found) :
      IsOpen registry row step armed (.invoked text definition found)

/-- The way that is open, found by asking for one condition after the other. -/
def choose (registry : Registry) (row : Record) (step : Step) (armed : Bool) : StepWay :=
  match step.obstacle? row with
  | some failure => .held failure
  | none =>
    if armed then .skipped
    else
      match expand step.text row with
      | .error unfilled => .unresolved unfilled.placeholder
      | .ok text =>
        match registry.find step.verb.lower text with
        | none => .undefined text
        | some (definition, found) => .invoked text definition found

theorem isOpen_choose (registry : Registry) (row : Record) (step : Step) (armed : Bool) :
    IsOpen registry row step armed (choose registry row step armed) := by
  unfold choose
  cases obstacle : step.obstacle? row with
  | some failure => exact .held obstacle
  | none =>
    cases armed with
    | true => exact .skipped obstacle rfl
    | false =>
        cases filled : expand step.text row with
        | error unfilled =>
            exact .unresolved obstacle rfl (step.firstUnfilled_of_ready obstacle filled)
        | ok text =>
            simp only [Bool.false_eq_true, if_false]
            cases sought : registry.find step.verb.lower text with
            | none =>
                rw [Registry.find_lower, Registry.firstMatch_eq_none_iff] at sought
                exact .undefined obstacle rfl filled sought
            | some first =>
                rw [Registry.find_lower, Registry.firstMatch_eq_some_iff] at sought
                obtain ⟨earlier, later, tried, matched, unmatched⟩ := sought
                exact .invoked obstacle rfl filled tried unmatched matched

/-- Exactly one way is open. -/
theorem isOpen_iff {registry : Registry} {row : Record} {step : Step} {armed : Bool}
    {way : StepWay} :
    IsOpen registry row step armed way ↔ way = choose registry row step armed := by
  constructor
  · rintro (obstacle | ⟨ready, skips⟩ | ⟨ready, idle, missing⟩ |
      ⟨ready, idle, filled, unmatched⟩ | ⟨ready, idle, filled, tried, unmatched, matched⟩)
    · rw [choose, obstacle]
    · simp [choose, ready, skips]
    · simp [choose, ready, idle, expand_of_firstUnfilled missing]
    · have sought := Registry.firstMatch_eq_none_iff.mpr unmatched
      simp [choose, ready, idle, filled, Registry.find_lower, sought]
    · have sought := Registry.firstMatch_eq_some_iff.mpr ⟨_, _, tried, matched, unmatched⟩
      simp [choose, ready, idle, filled, Registry.find_lower, sought]
  · rintro rfl
    exact isOpen_choose registry row step armed

/-- Whether the registry is asked on a way. -/
def asksRegistry : StepWay → Bool
  | held _ => false
  | skipped => false
  | unresolved _ => false
  | undefined _ => true
  | invoked _ _ _ => true

/-- The output of a step with a name that the row has no value for: a failed assertion, the lines
of the message as comments, and the plan. -/
def unresolvedOutput (step : Step) (name : Text) : Text :=
  "not ok 1 - Preparing step: ".toList ++ step.verb.lower ++ ' ' :: step.text ++ ['\n'] ++
    (Text.lines ("No mapping to placeholder <".toList ++ name ++ "> in: ".toList ++
      step.text)).flatMap (fun line => RecorderCall.commentLine line ++ ['\n']) ++
    "1..1\n".toList

/-- The result of a step on a way without an action, if it has one. -/
def result? (step : Step) : StepWay → Option Result
  | held _ => none
  | skipped => some ⟨.pending, "1..0 # SKIP Short-circuited from previous tests".toList⟩
  | unresolved name => some ⟨.failing, unresolvedOutput step name⟩
  | undefined text => some ⟨.undefined,
      "1..0 # SKIP No matching step definition for: ".toList ++ step.verb.lower ++ ' ' :: text⟩
  | invoked _ _ _ => none

end StepWay

/-- What comes of a step without an action: its beginning and its result are told, and nothing
else; the result is returned, unless the listener has no place for it; and the run stands where it
stood. -/
structure EndsUninvoked (state : RunState) (context : StepContext) (result : Result)
    (ran : Except Abort Result × RunState) : Prop where
  told : ∃ started ended,
    started = { context with recorder := started.recorder } ∧
    ended = { context with recorder := ended.recorder } ∧
    ran.2.observer.journal.events = state.observer.journal.events ++
      [.callback (.stepStarted started), .callback (.stepFinished ended result)] ∧
    ran.1 = if (state.observer.listener.told? (.stepFinished ended result)).isSome then
      .ok result else .error .nothingOpen
  uninvoked : ran.2.observer.journal.invocations = state.observer.journal.invocations
  standing : ran.2.standing = state.standing

/-- What comes of a step that is held up: nothing is told, the run ends with the failure, and it
stands where it stood. -/
structure EndsHeldUp (state : RunState) (failure : Failure) (ran : Except Abort Result × RunState) :
    Prop where
  ends : ran.1 = .error (.exit failure)
  untold : ran.2.observer.journal.events = state.observer.journal.events
  standing : ran.2.standing = state.standing

namespace Recorder

open RecorderCall

/-- The result of a recorder after a check that failed, a noted text and the plan. -/
theorem result_after_failed {name message : Text} (named : name ≠ []) (told : message ≠ []) :
    (after [.ok (.bool false) name, .diag message, .finish]).result =
      ⟨.failing, "not ok 1 - ".toList ++ name ++ ['\n'] ++
        (Text.lines message).flatMap (fun line => commentLine line ++ ['\n']) ++
        "1..1\n".toList⟩ := by
  have checked : entries [] (.ok (.bool false) name) = ["not ok 1 - ".toList ++ name] := by
    rw [entries, if_neg named]
    rfl
  have noted : entries [.ok (.bool false) name] (.diag message) =
      (Text.lines message).map commentLine := by
    rw [entries, if_neg told]
  have ended : entries [.ok (.bool false) name, .diag message] .finish = ["1..1".toList] := by
    have plan : planLine 1 = "1..1".toList := by decide
    rw [← plan]
    rfl
  have written : entriesOf [.ok (.bool false) name, .diag message, .finish] =
      ["not ok 1 - ".toList ++ name] ++ ((Text.lines message).map commentLine ++
        ["1..1".toList]) := by
    rw [← checked, ← noted, ← ended]
    rfl
  have counted : (recorderOf [.ok (.bool false) name, .diag message, .finish]).summary =
      ⟨0, 1, 0⟩ :=
    summary_recorderOf _
  rw [after_eq_recorderOf, result, counted, output]
  simp only [recorderOf, written, List.flatMap_append, List.flatMap_singleton, List.flatMap_map,
    List.append_assoc]
  rfl

end Recorder

namespace Dispatcher

variable (dispatcher : Dispatcher)

/-- What comes of a step on the way to an action: the action of the definition is invoked once, in
the context of the step with the groups of the match. -/
def InvokesOnce (state : RunState) (context : StepContext) (definition : StepDefinition)
    (found : PatternMatch) (after : RunState) : Prop :=
  ∃ before : StepContext,
    before = { context with matched := found.groups, recorder := before.recorder } ∧
    after.observer.journal.invocations = state.observer.journal.invocations ++
      [(before, (definition.action.call dispatcher.extraFields ⟨before, []⟩).2.context)]

/-- A step whose course has a result and no invocation ends without an action. -/
theorem runStep_endsUninvoked {row : Record} {step : Step} {state : RunState}
    {context : StepContext} {begun written : Option Recorder} {result : Result}
    (ready : step.obstacle? row = none)
    (stash : context.stash = ⟨state.featureStash, state.scenarioStash, []⟩)
    (takes : dispatcher.stepCourse row step state.standing =
      ⟨{ context with recorder := begun }, none, { context with recorder := written },
        .ok result⟩) :
    EndsUninvoked state context result ((dispatcher.runStep row step).run state) := by
  obtain ⟨observer, grown, leaves⟩ := dispatcher.runStep_leaves ready state
  have follows := dispatcher.runStep_follows ready state
  rw [takes] at grown leaves
  refine ⟨⟨{ context with recorder := begun }, { context with recorder := written }, rfl, rfl,
    ?_, ?_⟩, ?_, ?_⟩
  · rw [leaves]
    exact grown
  · -- The listener has a place for the beginning of the step, so that the end decides.
    simp only [RunM.Follows, stepPassage, takes, StepCourse.callbacks_events,
      Listener.toldAll?_cons, Listener.told?_stepStarted, Option.bind_some,
      Listener.toldAll?_nil, Option.bind_fun_some] at follows
    cases told : state.observer.listener.told?
      (.stepFinished { context with recorder := written } result) with
    | none =>
        rw [told] at follows
        exact follows
    | some listener =>
        rw [told] at follows
        obtain ⟨journal, -, runs⟩ := follows
        rw [runs]
        rfl
  · rw [leaves]
    exact (Journal.invocations_of_events grown).trans (List.append_nil _)
  · rw [leaves, Standing.standing_observedBy, Standing.leftBy, stash]
    rfl

theorem stepCourse_of_armed {row : Record} {step : Step} {standing : Standing}
    (armed : standing.shortCircuit.armed = true) :
    dispatcher.stepCourse row step standing =
      .skipped (.build step (step.shownText row) standing.featureStash standing.scenarioStash)
        shortCircuitResult := by
  unfold stepCourse Step.shownText
  cases Template.expand step.text row <;> simp [courseOf, armed]

/-- The result of a step that could not be prepared, because the row has no value for a name. -/
theorem result_unpreparedRecorder (step : Step) (name : Text)
    (featureStash scenarioStash : Record) :
    (StepCourse.unpreparedRecorder (.build step step.text featureStash scenarioStash)
      (UnfilledPlaceholder.message ⟨name, step.text, .missing⟩)).result =
        ⟨.failing, StepWay.unresolvedOutput step name⟩ := by
  have named : "Preparing step: ".toList ++ step.verb.lower ++ [' '] ++ step.text ≠ [] := by
    rw [List.append_assoc, List.append_assoc]
    exact List.append_ne_nil_of_left_ne_nil (by decide +kernel) _
  have told : UnfilledPlaceholder.message ⟨name, step.text, .missing⟩ ≠ [] := by
    unfold UnfilledPlaceholder.message
    rw [List.append_assoc, List.append_assoc]
    exact List.append_ne_nil_of_left_ne_nil (by decide +kernel) _
  refine (Recorder.result_after_failed named told).trans ?_
  unfold StepWay.unresolvedOutput UnfilledPlaceholder.message
  have beginning : "not ok 1 - Preparing step: ".toList =
      "not ok 1 - ".toList ++ "Preparing step: ".toList := by decide +kernel
  simp only [beginning, List.append_assoc, List.cons_append, List.nil_append]

/-- A step for which a way without an action is open ends with the result of this way. -/
theorem endsUninvoked_of_isOpen {row : Record} {step : Step} {state : RunState} {way : StepWay}
    {result : Result}
    (isOpen : way.IsOpen dispatcher.registry row step state.shortCircuit.armed)
    (gets : way.result? step = some result) :
    EndsUninvoked state
      (.build step (step.shownText row) state.featureStash state.scenarioStash) result
      ((dispatcher.runStep row step).run state) := by
  cases isOpen with
  | held => cases gets
  | skipped ready armed =>
      cases gets
      exact dispatcher.runStep_endsUninvoked ready rfl (dispatcher.stepCourse_of_armed armed)
  | @unresolved name ready idle missing =>
      cases gets
      have fails := Template.expand_of_firstUnfilled missing
      have shown : step.shownText row = step.text := by rw [Step.shownText, fails]
      have takes : dispatcher.stepCourse row step state.standing =
          .unprepared (.build step step.text state.featureStash state.scenarioStash)
            (UnfilledPlaceholder.message ⟨name, step.text, .missing⟩) := by
        simp [stepCourse, fails, RunState.standing, idle]
      rw [StepCourse.unprepared, result_unpreparedRecorder] at takes
      rw [shown]
      exact dispatcher.runStep_endsUninvoked ready rfl takes
  | @undefined text ready idle filled unmatched =>
      cases gets
      have shown : step.shownText row = text := by rw [Step.shownText, filled]
      have sought : dispatcher.registry.find step.verb.lower text = none := by
        rw [Registry.find_lower, Registry.firstMatch_eq_none_iff.mpr unmatched]
      have takes : dispatcher.stepCourse row step state.standing =
          .skipped (.build step text state.featureStash state.scenarioStash)
            (.skipped .undefined (undefinedReason
              (.build step text state.featureStash state.scenarioStash))) := by
        simp [stepCourse, filled, courseOf, RunState.standing, idle, StepContext.build, sought]
      have output : "1..0 # SKIP No matching step definition for: ".toList ++ step.verb.lower ++
          ' ' :: text = Result.skipMarker ++ undefinedReason
            (.build step text state.featureStash state.scenarioStash) := by
        have beginning : "1..0 # SKIP No matching step definition for: ".toList =
            Result.skipMarker ++ "No matching step definition for: ".toList := by decide +kernel
        unfold undefinedReason
        simp only [beginning, List.append_assoc, List.singleton_append]
        rfl
      rw [shown, output]
      exact dispatcher.runStep_endsUninvoked ready rfl takes
  | invoked => cases gets

/-- A step for which the way to a definition is open has its action invoked once. -/
theorem invokesOnce_of_isOpen {row : Record} {step : Step} {state : RunState} {text : Text}
    {definition : StepDefinition} {found : PatternMatch}
    (isOpen : (StepWay.invoked text definition found).IsOpen dispatcher.registry row step
      state.shortCircuit.armed) :
    dispatcher.InvokesOnce state (.build step text state.featureStash state.scenarioStash)
      definition found ((dispatcher.runStep row step).run state).2 := by
  cases isOpen with
  | invoked ready idle filled tried unmatched matched =>
  have sought : dispatcher.registry.find step.verb.lower text = some (definition, found) := by
    rw [Registry.find_lower, Registry.firstMatch_eq_some_iff]
    exact ⟨_, _, tried, matched, unmatched⟩
  let context : StepContext := .build step text state.featureStash state.scenarioStash
  have takes : dispatcher.stepCourse row step state.standing =
      dispatcher.invokedCourse context definition found := by
    simp [stepCourse, filled, courseOf, RunState.standing, idle, context, StepContext.build, sought]
  obtain ⟨observer, grown, leaves⟩ := dispatcher.runStep_leaves ready state
  have invocations := Journal.invocations_of_events grown
  rw [takes, StepCourse.invocations_events, invokedCourse_invocation] at invocations
  exact ⟨actionContext context found, rfl, leaves ▸ invocations⟩

/-- A step that is held up ends the run. -/
theorem endsHeldUp_of_obstacle {row : Record} {step : Step} {failure : Failure}
    (obstacle : step.obstacle? row = some failure) (state : RunState) :
    EndsHeldUp state failure ((dispatcher.runStep row step).run state) := by
  obtain ⟨observer, quiet, ends⟩ := dispatcher.exists_runStep_of_obstacle obstacle state
  rw [ends]
  exact ⟨rfl, quiet.1, rfl⟩

/-- A step with a name that is not filled is held up, skipped or fails without a definition. -/
theorem runStep_withRegistry_of_error {row : Record} {step : Step}
    {unfilled : UnfilledPlaceholder} (fails : Template.expand step.text row = .error unfilled)
    (registry : Registry) :
    runStep { dispatcher with registry := registry } row step = dispatcher.runStep row step := by
  unfold runStep
  rw [fails]
  rcases unfilled with ⟨name, text, _ | flaw⟩ <;> rfl

/-- A step whose text is filled in and whose data cannot be copied ends the run at once. -/
theorem run_runStep_of_uncopied {row : Record} {step : Step} {text : Text}
    (filled : Template.expand step.text row = .ok text) (tooDeep : step.isCopyable = false)
    (state : RunState) :
    (dispatcher.runStep row step).run state = (.error (.exit tooDeepToCopy), state) := by
  unfold runStep
  rw [filled]
  exact run_bind_of_error (run_contextOf_of_not_copyable tooDeep text state)

/-- A step whose text is filled in is skipped if the short circuit is armed. -/
theorem run_runStep_of_armed {row : Record} {step : Step} {text : Text}
    (filled : Template.expand step.text row = .ok text) (copyable : step.isCopyable = true)
    {state : RunState} (armed : state.shortCircuit.armed = true) :
    (dispatcher.runStep row step).run state =
      (RunM.dispatching (.build step text state.featureStash state.scenarioStash)
        (skipStep .pending shortCircuitReason)).run state := by
  unfold runStep
  rw [filled]
  refine (run_bind_of_ok (run_contextOf_of_copyable copyable text state)).trans ?_
  refine (run_bind_of_ok (run_get state)).trans ?_
  rw [armed]
  rfl

/-- On a way without the registry, any other registry does as well. -/
theorem run_runStep_withRegistry {row : Record} {step : Step} {state : RunState} {way : StepWay}
    (isOpen : way.IsOpen dispatcher.registry row step state.shortCircuit.armed)
    (unasked : way.asksRegistry = false) (registry : Registry) :
    (runStep { dispatcher with registry := registry } row step).run state =
      (dispatcher.runStep row step).run state := by
  cases filled : Template.expand step.text row with
  | error unfilled => rw [dispatcher.runStep_withRegistry_of_error filled]
  | ok text =>
    cases isOpen with
    | held obstacle =>
        have tooDeep := (Step.uncopied_of_obstacle obstacle (by simp [filled])).1
        rw [run_runStep_of_uncopied _ filled tooDeep, run_runStep_of_uncopied _ filled tooDeep]
    | skipped ready armed =>
        have copyable := Step.isCopyable_of_ready ready
        rw [run_runStep_of_armed _ filled copyable armed,
          run_runStep_of_armed _ filled copyable armed]
    | unresolved ready idle missing =>
        have fails := Template.expand_of_firstUnfilled missing
        rw [filled] at fails
        cases fails
    | undefined => cases unasked
    | invoked => cases unasked

/-- Which way a step goes.  For every step, row, registry and short circuit, exactly one way is
open, and the run of the step goes this way.  If the step is held up, armed or not, the run ends
with the failure that holds it up.  On any other way without an action the step ends with the result
of the way. In both cases no action is invoked and no stash changes.  On the way to a definition its
action is invoked exactly once, with the groups of the match in its context.  A step that is held
up, is skipped or fails for a name does the same with any other registry. -/
theorem runStep_goesOpenWay (row : Record) (step : Step) (state : RunState) :
    let context (text : Text) : StepContext :=
      .build step text state.featureStash state.scenarioStash
    let ran := (dispatcher.runStep row step).run state
    ∃ way : StepWay,
      (∀ other : StepWay,
        other.IsOpen dispatcher.registry row step state.shortCircuit.armed ↔ other = way) ∧
      (∀ failure, way = .held failure → EndsHeldUp state failure ran) ∧
      (∀ result, way.result? step = some result →
        EndsUninvoked state (context (step.shownText row)) result ran) ∧
      (∀ text definition found, way = .invoked text definition found →
        dispatcher.InvokesOnce state (context text) definition found ran.2) ∧
      (way.asksRegistry = false → ∀ registry,
        (runStep { dispatcher with registry := registry } row step).run state = ran) := by
  intro context ran
  have isOpen := StepWay.isOpen_choose dispatcher.registry row step state.shortCircuit.armed
  refine ⟨_, fun _ => StepWay.isOpen_iff, fun failure goes => ?_, fun result gets => ?_,
    fun text definition found goes => ?_, fun unasked registry => ?_⟩
  · rw [goes] at isOpen
    cases isOpen with
    | held obstacle => exact dispatcher.endsHeldUp_of_obstacle obstacle state
  · exact dispatcher.endsUninvoked_of_isOpen isOpen gets
  · rw [goes] at isOpen
    exact dispatcher.invokesOnce_of_isOpen isOpen
  · exact dispatcher.run_runStep_withRegistry isOpen unasked registry

end Dispatcher

end FeatureRunner
