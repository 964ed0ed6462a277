import FeatureRunner.Proofs.Action.Preservation
import FeatureRunner.Proofs.Recorder.Calls

/-!
# The calls that an action makes

An action has no other way to its recorder than the operations that check something, leave a task
open, note a text or write the plan.  Which of them it comes to may depend on the replies, on its
stashes and on everything else it sees, but the recorder at the end depends only on the calls that
were made: it is what their history tells, after whatever was recorded before the action began.
-/

namespace FeatureRunner

open RecorderCall

/-- The call to the recorder that an operation is, if it is one. -/
def ActionOp.call? : ActionOp → Option RecorderCall
  | ok passed name => some (.ok (.bool passed) name)
  | todo name reason => some (.todo name reason)
  | diag message => some (.diag message)
  | finish => some .finish
  | _ => none

/-- The calls that a program makes to the recorder, in order. -/
def ActionProgram.calls (extra : Bool) : ActionProgram → ActionState → List RecorderCall
  | done, _ => []
  | fail _, _ => []
  | perform op next, state =>
    let replied := op.run extra state
    op.call?.toList ++ calls extra (next replied.1) replied.2

/-- The calls that an action makes to the recorder.  With a wrong number of arguments it does not
even begin. -/
def Action.calls (action : Action) (extra : Bool) (state : ActionState) : List RecorderCall :=
  match action.wrongArguments? extra with
  | some _ => []
  | none => action.program.calls extra state

namespace ActionOp

theorem op_of_call? {op : ActionOp} {call : RecorderCall} (calls : op.call? = some call) :
    call.op = op := by
  cases op <;> cases calls <;> rfl

theorem recorder_run_of_not_call {op : ActionOp} (silent : op.call? = none) (extra : Bool)
    (state : ActionState) :
    (op.run extra state).2.context.recorder = state.context.recorder := by
  cases op with
  | ok | todo | diag | finish => cases silent
  | remember scope | forget scope =>
      obtain ⟨stash, changed⟩ := ActionState.exists_changeStash_context extra state scope _
      rw [run, changed]
  | _ => rfl

/-- An operation adds its call to the history of the recorder. -/
theorem recorder_run (op : ActionOp) (extra : Bool) {state : ActionState}
    {before : List RecorderCall} (has : state.context.recorder = some (recorderOf before)) :
    (op.run extra state).2.context.recorder =
      some (recorderOf (before ++ op.call?.toList)) := by
  cases calls : op.call? with
  | none =>
      rw [recorder_run_of_not_call calls, has]
      simp
  | some call => simp [← op_of_call? calls, run_recorderCall call extra has, answer_recorderOf]

end ActionOp

theorem ActionProgram.recorder_run (program : ActionProgram) (extra : Bool)
    {state : ActionState} {before : List RecorderCall}
    (has : state.context.recorder = some (recorderOf before)) :
    (program.run extra state).2.context.recorder =
      some (recorderOf (before ++ program.calls extra state)) := by
  induction program generalizing state before with
  | done => simpa [run, calls] using has
  | fail failure => simpa [run, calls] using has
  | perform op next ih =>
      rw [run, calls, ← List.append_assoc]
      exact ih _ (op.recorder_run extra has)

/-- An action adds its calls to the history of the recorder. -/
theorem Action.recorder_call (action : Action) (extra : Bool) {state : ActionState}
    {before : List RecorderCall} (has : state.context.recorder = some (recorderOf before)) :
    (action.call extra state).2.context.recorder =
      some (recorderOf (before ++ action.calls extra state)) := by
  unfold call calls
  cases action.wrongArguments? extra with
  | some failure => simpa using has
  | none => exact action.program.recorder_run extra has

end FeatureRunner
