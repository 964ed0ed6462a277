import FeatureRunner.Proofs.Action.Avoidance

/-!
# The second argument of an action

An action that gets a second argument has two names for the stash of its step.  Whatever it does
by one name it could do by the other: a program in which some uses of the second argument are
rewritten into uses of the context does the same, wherever they stand and however they depend on
what the program has seen.

And an action that takes one or two arguments and makes no use of the second does the same with it
and without it.
-/

namespace FeatureRunner

/-- Whether an operation needs the second argument.  To ask how many arguments there are is one of
its uses. -/
def ActionOp.usesSecond : ActionOp → Bool
  | stash .extra => true
  | remember .extra _ _ => true
  | forget .extra _ => true
  | argumentCount => true
  | _ => false

namespace ActionProgram

/-- Two programs of which the second comes from the first by rewriting some uses of the second
argument into uses of the step's stash in the context.  At each place the program may be rewritten
or not, depending on all replies before it. -/
inductive Rewritten : ActionProgram → ActionProgram → Prop where
  | done : Rewritten done done
  | fail (failure : Failure) : Rewritten (fail failure) (fail failure)
  | kept (op : ActionOp) {next other : Except Failure Value → ActionProgram}
      (later : ∀ reply, Rewritten (next reply) (other reply)) :
      Rewritten (perform op next) (perform op other)
  | read {next other : Except Failure Value → ActionProgram}
      (later : ∀ reply, Rewritten (next reply) (other reply)) :
      Rewritten (perform (.stash .extra) next) (perform (.stash .step) other)
  | write (key : Text) (value : Value) {next other : Except Failure Value → ActionProgram}
      (later : ∀ reply, Rewritten (next reply) (other reply)) :
      Rewritten (perform (.remember .extra key value) next)
        (perform (.remember .step key value) other)
  | delete (key : Text) {next other : Except Failure Value → ActionProgram}
      (later : ∀ reply, Rewritten (next reply) (other reply)) :
      Rewritten (perform (.forget .extra key) next) (perform (.forget .step key) other)

theorem Rewritten.refl (program : ActionProgram) : program.Rewritten program := by
  induction program with
  | done => exact .done
  | fail failure => exact .fail failure
  | perform op next ih => exact .kept op ih

/-- A rewritten program does what the program did, if there is a second argument. -/
theorem Rewritten.run_eq {program other : ActionProgram} (rewritten : program.Rewritten other)
    (state : ActionState) : other.run true state = program.run true state := by
  -- The state is generalized: after an operation both programs go on from the same state.
  induction rewritten generalizing state with
  | done => rfl
  | fail failure => rfl
  | kept op later ih => exact ih (op.run true state).1 (op.run true state).2
  | read later ih =>
      have same : ActionOp.run true state (.stash .step) =
          ActionOp.run true state (.stash .extra) := rfl
      rw [run, run, same]
      exact ih _ _
  | write key value later ih =>
      have same : ActionOp.run true state (.remember .step key value) =
          ActionOp.run true state (.remember .extra key value) := rfl
      rw [run, run, same]
      exact ih _ _
  | delete key later ih =>
      have same : ActionOp.run true state (.forget .step key) =
          ActionOp.run true state (.forget .extra key) := rfl
      rw [run, run, same]
      exact ih _ _

end ActionProgram

/-- An operation that does not need the second argument is the same without it. -/
theorem ActionOp.run_without_second {op : ActionOp} (free : op.usesSecond = false)
    (state : ActionState) : op.run false state = op.run true state := by
  cases op with
  | argumentCount => cases free
  | stash scope =>
      cases scope with
      | extra => cases free
      | feature | scenario | step => rfl
  | remember scope | forget scope =>
      cases scope with
      | extra => cases free
      | feature | scenario | step => rfl
  | _ => rfl

theorem ActionProgram.run_without_second {program : ActionProgram} {state : ActionState}
    (avoids : program.Avoids ActionOp.usesSecond true state) :
    program.run false state = program.run true state := by
  induction program generalizing state with
  | done => rfl
  | fail failure => rfl
  | perform op next ih =>
      obtain ⟨free, others⟩ := avoids
      rw [run, run, ActionOp.run_without_second free]
      exact ih _ others

namespace Action

/-- An action whose program is rewritten.  It takes the same arguments. -/
structure Rewritten (action other : Action) : Prop where
  arity : other.arity = action.arity
  program : action.program.Rewritten other.program

theorem Rewritten.call_eq {action other : Action} (rewritten : action.Rewritten other) :
    other.call true = action.call true := by
  funext state
  have sameArguments : other.wrongArguments? true = action.wrongArguments? true := by
    unfold wrongArguments?
    rw [rewritten.arity]
  rw [call, call, sameArguments, rewritten.program.run_eq]

/-- An action that takes one or two arguments, and makes no use of the second. -/
def IgnoresSecond (action : Action) : Prop :=
  action.arity = .either ∧ ∀ state, action.program.Avoids ActionOp.usesSecond true state

theorem IgnoresSecond.call_eq {action : Action} (ignores : action.IgnoresSecond) :
    action.call false = action.call true := by
  obtain ⟨takesBoth, avoids⟩ := ignores
  funext state
  have callable (extra : Bool) : action.wrongArguments? extra = none := by
    unfold wrongArguments?
    rw [takesBoth]
  rw [call, call, callable, callable]
  exact ActionProgram.run_without_second (avoids state)

end Action

end FeatureRunner
