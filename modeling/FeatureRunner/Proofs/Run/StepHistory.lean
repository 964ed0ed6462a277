import FeatureRunner.Proofs.Action.Calls
import FeatureRunner.Proofs.Run.FailureRecovery

/-!
# The history of a step

What becomes of a step is the work of its recorder, and what a recorder holds is told by its
history.  A step with a definition begins with a check that passes; then come the calls of its
action, those that write down what the action raised, and at last the plan.  A step that cannot be
prepared has a history of its own: a check that fails, the reason as a noted text, and the plan.

This file proves that the results of steps are those of their histories.
-/

namespace FeatureRunner

namespace RecorderCall

/-- The assertions accepted from some calls and then more: once a plan is written, no more. -/
theorem accepted_append (before later : List RecorderCall) :
    accepted (before ++ later) =
      accepted before ++ if planned before then [] else accepted later := by
  induction later generalizing before with
  | nil => cases planned before <;> simp [accepted]
  | cons call later ih =>
      rw [List.append_cons, ih, planned_append]
      cases closed : planned before with
      | true => simp [accepted_append_of_planned closed]
      | false =>
          rw [accepted_append_of_open closed]
          cases call <;> simp [accepted, List.filter_cons, isFinish]

theorem accepted_cons_ok (passed : Value) (name : Text) (later : List RecorderCall) :
    accepted (.ok passed name :: later) = .ok passed name :: accepted later := by
  simp [accepted, isFinish]

end RecorderCall

open RecorderCall

/-- The calls that write down what an action raised, if anything, and if it can be told.  A request
to leave is not written down. -/
def raisedCalls (text : Text) : Option Failure → List RecorderCall
  | none => []
  | some failure =>
    match failure.role with
    | .pending =>
      [.todo ("Step is pending: ".toList ++ text) (failure.wording.toOption.getD [])]
    | .error =>
      [.ok (.bool false) "Step ran without raising".toList,
        .diag (Text.stripRight (failure.trace.toOption.getD []))]
    | .exit => []

theorem Recorder.finish_recorderOf (before : List RecorderCall) :
    (recorderOf before).finish = recorderOf (before ++ [.finish]) := by
  have changed : RecorderCall.finish.change (recorderOf before) =
      some (recorderOf (before ++ [.finish])) := by
    cases closed : planned before with
    | false => exact change_of_open closed .finish
    | true => simp [change_of_planned closed]
  exact Option.some.inj changed

/-- The history of an executed step: a check that passes, the calls of the action, those that write
down what it raised, and the plan. -/
def executedCalls (started text : Text) (calls : List RecorderCall) (raised : Option Failure) :
    List RecorderCall :=
  .ok (.bool true) started :: (calls ++ raisedCalls text raised ++ [.finish])

theorem RecorderCall.planned_executedCalls {started text : Text} {calls : List RecorderCall}
    {raised : Option Failure} : planned (executedCalls started text calls raised) = true := by
  simp [executedCalls, planned, isFinish]

theorem Dispatcher.settle_recorderOf {dispatcher : Dispatcher} {before : List RecorderCall}
    {text : Text} {raised : Option Failure} {settled : Recorder}
    (settles : dispatcher.settle text (recorderOf before) raised = .ok settled) :
    settled = recorderOf (before ++ raisedCalls text raised) := by
  have recovers := (exists_settle_iff text raised).mp ⟨settled, settles⟩
  rcases raised with _ | failure
  · cases settles
    simp [raisedCalls]
  have isOpen : planned before = false := (recovers failure rfl).2.2
  unfold settle at settles
  cases role : failure.role with
  | exit => simp [role] at settles
  | pending =>
      cases wording : failure.wording with
      | error raised => simp [role, wording] at settles
      | ok words =>
          have accepted := change_of_open isOpen (.todo ("Step is pending: ".toList ++ text) words)
          rw [RecorderCall.change] at accepted
          simp only [role, wording, accepted] at settles
          simp only [raisedCalls, role, wording]
          exact (Except.ok.inj settles).symm
  | error =>
      cases noticed : failure.detail.bind dispatcher.noticeFlaw? with
      | some flaw => simp [role, noticed] at settles
      | none =>
        have accepted := change_of_open isOpen
          (.ok (.bool false) "Step ran without raising".toList)
        rw [RecorderCall.change, show Value.isTruthy (.bool false) = false from rfl] at accepted
        cases trace : failure.trace with
        | error raised =>
            simp only [role, noticed, accepted, trace] at settles
            cases settles
        | ok lines =>
            simp only [role, noticed, accepted, trace] at settles
            simp only [raisedCalls, role, trace]
            have stillOpen : planned (before ++ [.ok (.bool false)
                "Step ran without raising".toList]) = false := by
              rw [planned_append, isOpen]
              rfl
            have noted := change_of_open stillOpen (.diag (Text.stripRight lines))
            rw [List.append_assoc] at noted
            exact (Except.ok.inj settles).symm.trans (Option.some.inj noted)

namespace Dispatcher

/-- The name of the check that a step with a definition begins with. -/
def startName (context : StepContext) : Text :=
  "Starting to execute step: ".toList ++ context.text

/-- The history of a step that could not be prepared. -/
def unpreparedCalls (context : StepContext) (reason : Text) : List RecorderCall :=
  [.ok (.bool false) ("Preparing step: ".toList ++ context.verb ++ [' '] ++ context.text),
    .diag reason, .finish]

variable (dispatcher : Dispatcher)

def callsIn (definition : StepDefinition) (context : StepContext) : List RecorderCall :=
  definition.action.calls dispatcher.extraFields ⟨context, []⟩

/-- The history of a step with a definition. -/
def invokedCalls (context : StepContext) (definition : StepDefinition) (found : PatternMatch) :
    List RecorderCall :=
  let before := actionContext context found
  let called := dispatcher.callIn definition before
  executedCalls (startName context) called.2.text (dispatcher.callsIn definition before) called.1

theorem recorder_startedContext (context : StepContext) :
    (startedContext context).recorder =
      some (recorderOf [.ok (.bool true) (startName context)]) := by
  have nothing : planned [] = false := rfl
  exact change_of_open nothing (.ok (.bool true) (startName context))

theorem recorder_callIn (context : StepContext) (definition : StepDefinition)
    (found : PatternMatch) :
    (dispatcher.callIn definition (actionContext context found)).2.recorder =
      some (recorderOf (.ok (.bool true) (startName context) ::
        dispatcher.callsIn definition (actionContext context found))) := by
  have begun : (ActionState.mk (actionContext context found) []).context.recorder =
      some (recorderOf [.ok (.bool true) (startName context)]) := recorder_startedContext context
  exact definition.action.recorder_call dispatcher.extraFields begun

theorem recorder_unprepared (context : StepContext) (reason : Text) :
    StepCourse.unpreparedRecorder context reason =
      recorderOf (unpreparedCalls context reason) :=
  after_eq_recorderOf (unpreparedCalls context reason)

/-- A step with a definition that returns has the result of its history.  What its action raised, if
anything, was no request to leave and came ahead of the plan. -/
theorem invokedCourse_returns {context : StepContext} {definition : StepDefinition}
    {found : PatternMatch} {result : Result}
    (returns : (dispatcher.invokedCourse context definition found).outcome = .ok result) :
    let before := actionContext context found
    result = (recorderOf (dispatcher.invokedCalls context definition found)).result ∧
      ∀ failure, (dispatcher.callIn definition before).1 = some failure →
        failure.role ≠ .exit ∧ planned (dispatcher.callsIn definition before) = false := by
  intro before
  rw [invokedCourse_outcome, settled, recorder_callIn, Option.getD_some] at returns
  cases settling : dispatcher.settle (dispatcher.callIn definition before).2.text
    (recorderOf (.ok (.bool true) (startName context) :: dispatcher.callsIn definition before))
    (dispatcher.callIn definition before).1 with
  | error abort =>
      rw [settling] at returns
      cases returns
  | ok settled =>
      rw [settling] at returns
      have concludes : settled.finish.result = result := Except.ok.inj returns
      refine ⟨?_, fun failure raises => ?_⟩
      · rw [← concludes, settle_recorderOf settling, Recorder.finish_recorderOf]
        rfl
      · obtain ⟨ordinary, -, isOpen⟩ :=
          (exists_settle_iff _ _).mp ⟨settled, settling⟩ failure raises
        exact ⟨ordinary, by simpa [recorderOf, planned, isFinish] using isOpen⟩

end Dispatcher

end FeatureRunner
