import FeatureRunner.Proofs.Run.StepHistory

/-!
# The status of an executed step

When an action was executed, its step is failing if one of the recorded checks failed or the action
raised an error, otherwise pending if a task was left open or the action marked the step as pending,
and otherwise passing.  Only recorded assertions count: what an action asserts after writing the
plan itself is refused, and makes no difference to the status or to the number that the plan tells.

This file proves it for every action, by reading the status and the output off the history of the
step.
-/

namespace FeatureRunner

open RecorderCall

/-- Whether the step of an action with these calls has failed. -/
def Fails (calls : List RecorderCall) (raised : Option Failure) : Prop :=
  (∃ call ∈ accepted calls, call.isFailed = true) ∨
    ∃ failure, raised = some failure ∧ failure.role = .error

/-- Whether the step of an action with these calls is left open. -/
def LeavesOpen (calls : List RecorderCall) (raised : Option Failure) : Prop :=
  (∃ call ∈ accepted calls, call.isTodo = true) ∨
    ∃ failure, raised = some failure ∧ failure.role = .pending

/-- The result tells what an action has done in a context, by its calls and by what it raised.  The
status tells whether the step fails or is left open.  The output has the entries of the history in
order, each ended by a line feed: a passed check comes first, and one entry reads as a plan, which
counts this check, the recorded assertions of the action, and one more for what it raised. -/
structure Result.TellsExecution (result : Result) (context : StepContext)
    (calls : List RecorderCall) (raised : Option Failure) (history : List RecorderCall) :
    Prop where
  failing : result.status = .failing ↔ Fails calls raised
  pending : result.status = .pending ↔ ¬ Fails calls raised ∧ LeavesOpen calls raised
  passing : result.status = .passing ↔ ¬ Fails calls raised ∧ ¬ LeavesOpen calls raised
  output : result.output = (entriesOf history).flatMap (· ++ ['\n'])
  beginning : (entriesOf history).head? =
    some ("ok 1 - Starting to execute step: ".toList ++ context.text)
  plan : (entriesOf history).filter isPlanLine =
    [planLine (1 + (accepted calls).length + if raised.isSome then 1 else 0)]

namespace RecorderCall

/-- The status of a recorder: a failed check beats an open task, which beats passing. -/
theorem status_recorderOf_iff (calls : List RecorderCall) :
    let status := (recorderOf calls).result.status
    let failed := ∃ call ∈ accepted calls, call.isFailed = true
    let leftOpen := ∃ call ∈ accepted calls, call.isTodo = true
    (status = .failing ↔ failed) ∧ (status = .pending ↔ ¬ failed ∧ leftOpen) ∧
      (status = .passing ↔ ¬ failed ∧ ¬ leftOpen) := by
  intro status failed leftOpen
  have counted (sort : RecorderCall → Bool) :
      (accepted calls).countP sort ≠ 0 ↔ ∃ call ∈ accepted calls, sort call = true := by
    rw [← List.countP_pos_iff, Nat.pos_iff_ne_zero]
  have verdict : status = if failed then .failing else if leftOpen then .pending else .passing := by
    simp only [status, Recorder.result, summary_recorderOf, Summary.status, counted, failed,
      leftOpen]
  rw [verdict]
  by_cases someFailed : failed
  · simp [someFailed]
  · by_cases someOpen : leftOpen <;> simp [someFailed, someOpen]

/-- What was raised is written down as one assertion: a failed check or an open task. -/
theorem accepted_raisedCalls {raised : Option Failure} (text : Text)
    (ordinary : ∀ failure, raised = some failure → failure.role ≠ .exit) :
    (accepted (raisedCalls text raised)).length = (if raised.isSome then 1 else 0) ∧
      ((∃ call ∈ accepted (raisedCalls text raised), call.isFailed = true) ↔
        ∃ failure, raised = some failure ∧ failure.role = .error) ∧
      ((∃ call ∈ accepted (raisedCalls text raised), call.isTodo = true) ↔
        ∃ failure, raised = some failure ∧ failure.role = .pending) := by
  cases raised with
  | none => simp [raisedCalls, accepted]
  | some failure =>
    unfold raisedCalls
    cases role : failure.role with
    | pending => simp [role, accepted, List.filter_cons, isFinish, isFailed, isTodo]
    | error => simp [role, accepted, isFinish, isFailed, isTodo, Value.isTruthy]
    | exit => exact absurd role (ordinary failure rfl)

section Executed

variable {started text : Text} {calls : List RecorderCall} {raised : Option Failure}

/-- The recorded assertions of an executed step: the check at the beginning, those of the action,
and the one that writes down what it raised. -/
theorem accepted_executedCalls
    (recovers : ∀ failure, raised = some failure → planned calls = false) :
    accepted (executedCalls started text calls raised) =
      .ok (.bool true) started :: (accepted calls ++ accepted (raisedCalls text raised)) := by
  have ends : accepted [.finish] = [] := rfl
  rw [executedCalls, accepted_cons_ok, accepted_append, accepted_append, ends]
  cases raised with
  | none => simp [raisedCalls, accepted]
  | some failure => simp [recovers failure rfl]

theorem head?_entriesOf_executedCalls (named : started ≠ []) :
    (entriesOf (executedCalls started text calls raised)).head? =
      some ("ok 1 - ".toList ++ started) := by
  rw [executedCalls, entriesOf, entriesFrom, entries, if_neg named]
  rfl

variable (recovers : ∀ failure, raised = some failure →
  failure.role ≠ .exit ∧ planned calls = false)

include recovers

theorem exists_isFailed_executedCalls :
    (∃ call ∈ accepted (executedCalls started text calls raised), call.isFailed = true) ↔
      Fails calls raised := by
  obtain ⟨-, failed, -⟩ := accepted_raisedCalls text fun failure raises =>
    (recovers failure raises).1
  rw [accepted_executedCalls fun failure raises => (recovers failure raises).2, Fails, ← failed]
  simp [isFailed, Value.isTruthy, or_and_right, exists_or]

theorem exists_isTodo_executedCalls :
    (∃ call ∈ accepted (executedCalls started text calls raised), call.isTodo = true) ↔
      LeavesOpen calls raised := by
  obtain ⟨-, -, leftOpen⟩ := accepted_raisedCalls text fun failure raises =>
    (recovers failure raises).1
  rw [accepted_executedCalls fun failure raises => (recovers failure raises).2, LeavesOpen,
    ← leftOpen]
  simp [isTodo, or_and_right, exists_or]

theorem length_accepted_executedCalls :
    (accepted (executedCalls started text calls raised)).length =
      1 + (accepted calls).length + if raised.isSome then 1 else 0 := by
  obtain ⟨count, -, -⟩ := accepted_raisedCalls text fun failure raises =>
    (recovers failure raises).1
  rw [accepted_executedCalls fun failure raises => (recovers failure raises).2,
    List.length_cons, List.length_append, count]
  omega

/-- The result of the history of an executed step tells the execution. -/
theorem tellsExecution_executedCalls (context : StepContext) :
    (recorderOf (executedCalls (Dispatcher.startName context) text calls
      raised)).result.TellsExecution context calls raised
        (executedCalls (Dispatcher.startName context) text calls raised) := by
  obtain ⟨failing, pending, passing⟩ :=
    status_recorderOf_iff (executedCalls (Dispatcher.startName context) text calls raised)
  rw [exists_isFailed_executedCalls recovers] at failing pending passing
  rw [exists_isTodo_executedCalls recovers] at pending passing
  have named : Dispatcher.startName context ≠ [] :=
    List.append_ne_nil_of_left_ne_nil (by decide +kernel) _
  have beginning : "ok 1 - Starting to execute step: ".toList =
      "ok 1 - ".toList ++ "Starting to execute step: ".toList := by decide +kernel
  refine ⟨failing, pending, passing, rfl, ?_, ?_⟩
  · rw [head?_entriesOf_executedCalls named, beginning, List.append_assoc]
    rfl
  · rw [filter_isPlanLine_entriesOf, planned_executedCalls, if_pos rfl,
      length_accepted_executedCalls recovers]

end Executed

end RecorderCall

namespace Dispatcher

variable (dispatcher : Dispatcher)

/-- The status of an executed step.  Whatever the action of a step does, in any order, if
dispatching the step returns, the result tells what the action has done. -/
theorem dispatch_tellsExecution {context : StepContext} {observer : Observer}
    {definition : StepDefinition} {found : PatternMatch} {result : Result}
    (sought : dispatcher.registry.find context.verb context.text = some (definition, found))
    (returns : ((dispatcher.dispatch false).run ⟨context, observer⟩).1 = .ok result) :
    let before := actionContext context found
    result.TellsExecution context (dispatcher.callsIn definition before)
      (dispatcher.callIn definition before).1
      (dispatcher.invokedCalls context definition found) := by
  intro before
  have course : dispatcher.courseOf false context =
      dispatcher.invokedCourse context definition found := by
    simp [courseOf, sought]
  have outcome := (dispatcher.dispatch_follows false _).outcome_of_ok returns
  rw [course] at outcome
  obtain ⟨rfl, recovers⟩ := dispatcher.invokedCourse_returns outcome
  exact tellsExecution_executedCalls recovers context

/-- An open task, the plan, and a failed check that comes too late to be recorded. -/
theorem dispatch_tellsExecution_closed :
    let closing : Action := ⟨.either, .perform (.todo "later".toList []) fun _ =>
      .perform .finish fun _ => .perform (.ok false []) fun _ => .done⟩
    let definition : StepDefinition :=
      ⟨[], ⟨[], ⟨false, false, false⟩, .sequence [], 0⟩, closing⟩
    let dispatcher : Dispatcher := ⟨⟨[([], [definition])]⟩, false⟩
    let context : StepContext := .build ⟨[], [], .null, .null⟩ [] [] []
    let found : PatternMatch := ⟨0, 0, []⟩
    dispatcher.registry.find context.verb context.text = some (definition, found) ∧
      ∃ result, ((dispatcher.dispatch false).run ⟨context, .start .silent⟩).1 = .ok result ∧
        result.status = .pending ∧
        (entriesOf (dispatcher.invokedCalls context definition found)).filter isPlanLine =
          ["1..2".toList] := by
  intro closing definition dispatcher context found
  refine ⟨rfl, ?_⟩
  cases returns : ((dispatcher.dispatch false).run ⟨context, .start .silent⟩).1 with
  | error abort =>
      have ends : ((dispatcher.dispatch false).run ⟨context, .start .silent⟩).1.isOk = true := by
        decide +kernel
      rw [returns] at ends
      cases ends
  | ok result =>
      have told := dispatcher.dispatch_tellsExecution rfl returns
      have unfailed : ¬ Fails (dispatcher.callsIn definition (actionContext context found))
          (dispatcher.callIn definition (actionContext context found)).1 := by
        rintro (⟨call, recorded, failed⟩ | ⟨failure, raised, -⟩)
        · have none : ∀ call ∈ accepted
              (dispatcher.callsIn definition (actionContext context found)),
              call.isFailed = false := by decide +kernel
          rw [none call recorded] at failed
          cases failed
        · cases raised
      refine ⟨result, rfl, told.pending.mpr ⟨unfailed, .inl ?_⟩, told.plan.trans ?_⟩
      · exact ⟨.todo "later".toList [], List.mem_cons_self, rfl⟩
      · decide +kernel

end Dispatcher

end FeatureRunner
