import FeatureRunner.Proofs.Action.Preservation
import FeatureRunner.Proofs.Run.Events

/-!
# The course of a step

What becomes of a step depends only on the definitions, on its context and on the short circuit:
it is skipped, reported as undefined, reported as not prepared, or handed to an action.  The
course of the step is everything that comes of it, as a value: the contexts that the observer is
told, the invocation, and the result or the early end.

This file computes courses, and says what every course has in common: it is about one step, it
hands the stashes of its context to the action and takes over those that the action leaves, and
without an action it changes no stash and has a result.
-/

namespace FeatureRunner

/-- What comes of one step: the context told at its start, the context of the action before and
after it if one was invoked, the context at the end, and the result unless the run ended. -/
structure StepCourse where
  started : StepContext
  invocation : Option (StepContext × StepContext)
  ended : StepContext
  outcome : Except Abort Result

namespace StepCourse

/-- The events after the invocation: the end of the step, unless the run ended before. -/
def closing (course : StepCourse) : Journal :=
  match course.outcome with
  | .ok result => [.callback (.stepFinished course.ended result)]
  | .error _ => []

/-- The events of a step. -/
def events (course : StepCourse) : Journal :=
  .callback (.stepStarted course.started) ::
    (course.invocation.toList.map (fun contexts => .invocation contexts.1 contexts.2) ++
      course.closing)

/-- The callbacks of a step: its start, and its end unless the run ended before. -/
theorem callbacks_events (course : StepCourse) :
    course.events.callbacks =
      .stepStarted course.started ::
        match course.outcome with
        | .ok result => [.stepFinished course.ended result]
        | .error _ => [] := by
  rcases course with ⟨started, _ | contexts, ended, _ | result⟩ <;> rfl

@[simp]
theorem invocations_events (course : StepCourse) :
    course.events.invocations = course.invocation.toList := by
  rcases course with ⟨started, _ | contexts, ended, _ | result⟩ <;> rfl

/-- The course of a step that gets its result without running. -/
def skipped (context : StepContext) (result : Result) : StepCourse :=
  ⟨context, none, context, .ok result⟩

/-- The recorder of a step that could not be prepared. -/
def unpreparedRecorder (context : StepContext) (reason : Text) : Recorder :=
  (((Recorder.empty.ok? false ("Preparing step: ".toList ++ context.verb ++ [' '] ++
    context.text)).getD .empty).diag reason).finish

/-- The course of a step that could not be prepared. -/
def unprepared (context : StepContext) (reason : Text) : StepCourse :=
  let recorder := unpreparedRecorder context reason
  ⟨{ context with recorder := some .empty }, none, { context with recorder := some recorder },
    .ok recorder.result⟩

end StepCourse

namespace Dispatcher

variable (dispatcher : Dispatcher)

/-- The recorder after what an action raised is written down, unless the run ends: the action may
ask to leave, the plan may be written already, or there may be no text to write down. -/
def settle (text : Text) (recorder : Recorder) : Option Failure → Except Abort Recorder
  | none => .ok recorder
  | some failure =>
    match failure.role with
    | .pending =>
      match failure.wording with
      | .error raised => .error (.exit raised)
      | .ok reason =>
        match recorder.todo? ("Step is pending: ".toList ++ text) reason with
        | some settled => .ok settled
        | none => .error .closedRecorder
    | .error =>
      match failure.detail.bind dispatcher.noticeFlaw? with
      | some flaw => .error (.exit (.ofShowFlaw flaw))
      | none =>
        match recorder.ok? false "Step ran without raising".toList with
        | none => .error .closedRecorder
        | some failed =>
          match failure.trace with
          | .ok trace => .ok (failed.diag (Text.stripRight trace))
          | .error raised => .error (.exit raised)
    | .exit => .error (.exit failure)

/-- The recorder that is left where the run ends because of what an action raised.  The check that
it fails is recorded ahead of its trace. -/
def abandon (recorder : Option Recorder) (raised : Option Failure) : Option Recorder :=
  match raised with
  | none => recorder
  | some failure =>
    match failure.role, failure.detail.bind dispatcher.noticeFlaw? with
    | .error, none =>
      ((recorder.getD .empty).ok? false "Step ran without raising".toList).or recorder
    | _, _ => recorder

/-- The context that the observer is told when a step with a definition starts. -/
def startedContext (context : StepContext) : StepContext :=
  { context with
    recorder := Recorder.empty.ok? true ("Starting to execute step: ".toList ++ context.text) }

/-- The context that an action gets. -/
def actionContext (context : StepContext) (found : PatternMatch) : StepContext :=
  { startedContext context with matched := found.groups }

/-- What an action raises in a context, and the context that it leaves. -/
def callIn (definition : StepDefinition) (context : StepContext) :
    Option Failure × StepContext :=
  let called := definition.action.call dispatcher.extraFields ⟨context, []⟩
  (called.1, called.2.context)

/-- The recorder of the step once its action is over. -/
def settled (called : Option Failure × StepContext) : Except Abort Recorder :=
  dispatcher.settle called.2.text (called.2.recorder.getD .empty) called.1

/-- The context where the run ends once the action is over. -/
def abandoned (called : Option Failure × StepContext) : StepContext :=
  { called.2 with recorder := dispatcher.abandon called.2.recorder called.1 }

/-- The course of a step with a definition. -/
def invokedCourse (context : StepContext) (definition : StepDefinition) (found : PatternMatch) :
    StepCourse :=
  let before := actionContext context found
  let called := dispatcher.callIn definition before
  match dispatcher.settled called with
  | .ok recorder =>
    ⟨startedContext context, some (before, called.2),
      { called.2 with recorder := some recorder.finish }, .ok recorder.finish.result⟩
  | .error abort =>
    ⟨startedContext context, some (before, called.2), dispatcher.abandoned called, .error abort⟩

/-- The reason for reporting a step as undefined. -/
def undefinedReason (context : StepContext) : Text :=
  "No matching step definition for: ".toList ++ context.verb ++ [' '] ++ context.text

/-- The result of a step after one of its row that did not pass. -/
def shortCircuitResult : Result := .skipped .pending shortCircuitReason

/-- The course of a dispatch. -/
def courseOf (shortCircuit : Bool) (context : StepContext) : StepCourse :=
  if shortCircuit then .skipped context shortCircuitResult
  else
    match dispatcher.registry.find context.verb context.text with
    | none => .skipped context (.skipped .undefined (undefinedReason context))
    | some (definition, found) => dispatcher.invokedCourse context definition found

end Dispatcher

/-- A course belongs to a context if it tells the step of the context, if it ends in the context
that it began with or that its action left, apart from the recorder, if an action gets the data
and the stashes of the context and the stashes it leaves are those at the end, and if without an
action the stashes stay the same and there is a result. -/
structure StepCourse.BelongsTo (course : StepCourse) (context : StepContext) : Prop where
  started_step : course.started.step = context.step
  started_verb : course.started.verb = context.verb
  started_text : course.started.text = context.text
  ended_step : course.ended.step = context.step
  ended_verb : course.ended.verb = context.verb
  ended_eq : course.ended =
    { course.invocation.elim course.started Prod.snd with recorder := course.ended.recorder }
  invoked_started : ∀ before after, course.invocation = some (before, after) →
    before = { course.started with matched := before.matched }
  invoked : ∀ before after, course.invocation = some (before, after) →
    before.data = context.data ∧ before.stash = context.stash ∧
      course.ended.stash = after.stash
  uninvoked : course.invocation = none →
    course.ended.stash = context.stash ∧ ∃ result, course.outcome = .ok result

/-- A course breaks off if it invokes the action of the definition found for its step, and the
action raises something. -/
def StepCourse.BreaksOff (course : StepCourse) (dispatcher : Dispatcher) : Prop :=
  ∃ definition found failure after,
    dispatcher.registry.find course.started.verb course.started.text =
      some (definition, found) ∧
    course.invocation = some ({ course.started with matched := found.groups }, after) ∧
    dispatcher.callIn definition { course.started with matched := found.groups } =
      (some failure, after)

namespace StepCourse

theorem skipped_belongsTo (context : StepContext) (result : Result) :
    (skipped context result).BelongsTo context where
  started_step := rfl
  started_verb := rfl
  started_text := rfl
  ended_step := rfl
  ended_verb := rfl
  ended_eq := rfl
  invoked_started := by
    intro before after invoked
    cases invoked
  invoked := by
    intro before after invoked
    cases invoked
  uninvoked _ := ⟨rfl, result, rfl⟩

theorem unprepared_belongsTo (context : StepContext) (reason : Text) :
    (unprepared context reason).BelongsTo context where
  started_step := rfl
  started_verb := rfl
  started_text := rfl
  ended_step := rfl
  ended_verb := rfl
  ended_eq := rfl
  invoked_started := by
    intro before after invoked
    cases invoked
  invoked := by
    intro before after invoked
    cases invoked
  uninvoked _ := ⟨rfl, _, rfl⟩

end StepCourse

namespace Dispatcher

variable (dispatcher : Dispatcher)

theorem callIn_step (definition : StepDefinition) (context : StepContext) :
    (dispatcher.callIn definition context).2.step = context.step :=
  definition.action.call_step dispatcher.extraFields ⟨context, []⟩

theorem callIn_verb (definition : StepDefinition) (context : StepContext) :
    (dispatcher.callIn definition context).2.verb = context.verb :=
  definition.action.call_verb dispatcher.extraFields ⟨context, []⟩

@[simp]
theorem invokedCourse_started (context : StepContext) (definition : StepDefinition)
    (found : PatternMatch) :
    (dispatcher.invokedCourse context definition found).started = startedContext context := by
  unfold invokedCourse
  simp only
  split <;> rfl

@[simp]
theorem invokedCourse_invocation (context : StepContext) (definition : StepDefinition)
    (found : PatternMatch) :
    (dispatcher.invokedCourse context definition found).invocation =
      some (actionContext context found,
        (dispatcher.callIn definition (actionContext context found)).2) := by
  unfold invokedCourse
  simp only
  split <;> rfl

@[simp]
theorem invokedCourse_outcome (context : StepContext) (definition : StepDefinition)
    (found : PatternMatch) :
    (dispatcher.invokedCourse context definition found).outcome =
      (dispatcher.settled (dispatcher.callIn definition (actionContext context found))).map
        (·.finish.result) := by
  unfold invokedCourse
  cases outcome :
      dispatcher.settled (dispatcher.callIn definition (actionContext context found)) <;>
    simp [outcome, Except.map]

theorem belongsTo_of_invocation {context after : StepContext} {found : PatternMatch}
    {recorder : Option Recorder} {outcome : Except Abort Result}
    (sameStep : after.step = context.step) (sameVerb : after.verb = context.verb) :
    StepCourse.BelongsTo
      ⟨startedContext context, some (actionContext context found, after),
        { after with recorder := recorder }, outcome⟩
      context where
  started_step := rfl
  started_verb := rfl
  started_text := rfl
  ended_step := sameStep
  ended_verb := sameVerb
  ended_eq := rfl
  invoked_started := by
    rintro before after ⟨⟩
    rfl
  invoked := by
    rintro before after ⟨⟩
    exact ⟨rfl, rfl, rfl⟩
  uninvoked := by
    intro uninvoked
    cases uninvoked

theorem invokedCourse_belongsTo (context : StepContext) (definition : StepDefinition)
    (found : PatternMatch) :
    (dispatcher.invokedCourse context definition found).BelongsTo context := by
  have sameStep := dispatcher.callIn_step definition (actionContext context found)
  have sameVerb := dispatcher.callIn_verb definition (actionContext context found)
  unfold invokedCourse
  simp only
  cases dispatcher.settled (dispatcher.callIn definition (actionContext context found)) with
  | ok recorder => exact belongsTo_of_invocation sameStep sameVerb
  | error abort => exact belongsTo_of_invocation sameStep sameVerb

theorem courseOf_belongsTo (shortCircuit : Bool) (context : StepContext) :
    (dispatcher.courseOf shortCircuit context).BelongsTo context := by
  unfold courseOf
  split
  · exact StepCourse.skipped_belongsTo context _
  · split
    · exact StepCourse.skipped_belongsTo context _
    · exact dispatcher.invokedCourse_belongsTo context _ _

/-- A dispatch that ends the run breaks off inside the action of its step. -/
theorem courseOf_of_error {shortCircuit : Bool} {context : StepContext} {abort : Abort}
    (ends : (dispatcher.courseOf shortCircuit context).outcome = .error abort) :
    (dispatcher.courseOf shortCircuit context).BreaksOff dispatcher := by
  unfold courseOf at ends ⊢
  split at ends
  · cases ends
  · next idle =>
    split at ends
    · cases ends
    · next definition found sought =>
      rw [if_neg idle]
      simp only [StepCourse.BreaksOff, invokedCourse_started, invokedCourse_invocation,
        invokedCourse_outcome] at ends ⊢
      rcases called : dispatcher.callIn definition (actionContext context found) with
        ⟨_ | failure, after⟩
      · rw [called] at ends
        cases ends
      · exact ⟨definition, found, failure, after, sought, rfl, called⟩

end Dispatcher

end FeatureRunner
