import FeatureRunner.Action.Program

/-!
# Operations that actions avoid

An action learns of its context only by its operations.  It avoids certain operations if it
performs none of them, whatever state it is called in.  A change of the context that only these
operations would notice is then hidden from the action: it raises the same as before, and leaves
the context that it left before, changed in the same way.

Two changes are of this kind, that of the feature stash and that of the text of the step as the
feature has it.
-/

namespace FeatureRunner

namespace ActionOp

def touchesFeatureStash : ActionOp → Bool
  | stash .feature => true
  | remember .feature _ _ => true
  | forget .feature _ => true
  | _ => false

def readsStepText : ActionOp → Bool
  | stepText => true
  | _ => false

end ActionOp

/-- A program avoids operations from a state on if it performs none of them when it runs. -/
def ActionProgram.Avoids (avoided : ActionOp → Bool) (extra : Bool) :
    ActionProgram → ActionState → Prop
  | done, _ => True
  | fail _, _ => True
  | perform op next, state =>
    avoided op = false ∧
      Avoids avoided extra (next (op.run extra state).1) (op.run extra state).2

/-- An action avoids operations if its program does, whatever state it is called in.  An action
that cannot be called performs none. -/
def Action.Avoids (avoided : ActionOp → Bool) (extra : Bool) (action : Action) : Prop :=
  action.wrongArguments? extra = none →
    ∀ state, action.program.Avoids avoided extra state

def ActionState.alter (change : StepContext → StepContext) (state : ActionState) : ActionState :=
  { state with context := change state.context }

/-- A change of contexts that leaves the verb, the text and the recorder, and does not depend on
the recorder and the match. -/
structure ContextChange where
  change : StepContext → StepContext
  verb_change (context : StepContext) : (change context).verb = context.verb
  text_change (context : StepContext) : (change context).text = context.text
  recorder_change (context : StepContext) : (change context).recorder = context.recorder
  change_recorder (context : StepContext) (recorder : Option Recorder) :
    change { context with recorder := recorder } = { change context with recorder := recorder }
  change_matched (context : StepContext) (groups : List (Option Text)) :
    change { context with matched := groups } = { change context with matched := groups }

namespace ContextChange

/-- A change of contexts is hidden from operations if they reply the same after it, and it can
as well be made after them. -/
def HiddenFrom (made : ContextChange) (noticed : ActionOp → Bool) : Prop :=
  ∀ (extra : Bool) (op : ActionOp) (state : ActionState), noticed op = false →
    op.run extra (state.alter made.change) =
      ((op.run extra state).1, (op.run extra state).2.alter made.change)

variable {made : ContextChange} {avoided : ActionOp → Bool} {extra : Bool}

theorem HiddenFrom.program_run (hidden : made.HiddenFrom avoided) {program : ActionProgram}
    {state : ActionState} (avoids : program.Avoids avoided extra state) :
    program.run extra (state.alter made.change) =
      ((program.run extra state).1, (program.run extra state).2.alter made.change) := by
  -- The state is generalized: after an operation the program goes on from where this left it.
  induction program generalizing state with
  | done => rfl
  | fail failure => rfl
  | perform op next ih =>
      obtain ⟨allowed, others⟩ := avoids
      rw [ActionProgram.run, hidden extra op state allowed]
      exact ih _ others

theorem HiddenFrom.call (hidden : made.HiddenFrom avoided) {action : Action}
    (avoids : action.Avoids avoided extra) (state : ActionState) :
    action.call extra (state.alter made.change) =
      ((action.call extra state).1, (action.call extra state).2.alter made.change) := by
  unfold Action.call
  split
  · rfl
  · next callable => exact hidden.program_run (avoids callable state)

/-- Assertions notice no change of contexts. -/
theorem assert_alter (made : ContextChange) (state : ActionState) (reply : Value)
    (record : Recorder → Option Recorder) :
    (state.alter made.change).assert reply record =
      ((state.assert reply record).1, (state.assert reply record).2.alter made.change) := by
  unfold ActionState.assert
  have kept : (state.alter made.change).context.recorder = state.context.recorder :=
    made.recorder_change state.context
  rw [kept]
  cases state.context.recorder with
  | none => rfl
  | some recorder =>
      cases accepted : record recorder with
      | none => simp only [accepted]
      | some changed =>
          simp only [accepted]
          have carried := made.change_recorder state.context (some changed)
          exact congrArg (fun context : StepContext =>
            ((.ok reply, ⟨context, state.notes⟩) : Except Failure Value × ActionState)) carried.symm

/-- Changing a stash notices no change of contexts that leaves this stash. -/
theorem changeStash_alter {state : ActionState} {scope : StashScope}
    (kept : (state.alter made.change).stash extra scope = state.stash extra scope)
    (carried : ∀ contents,
      { made.change state.context with
        stash := ActionState.Stash.replace (made.change state.context).stash contents scope } =
      made.change { state.context with
        stash := ActionState.Stash.replace state.context.stash contents scope })
    (change : Record → Except Failure Record) :
    (state.alter made.change).changeStash extra scope change =
      ((state.changeStash extra scope change).1,
        (state.changeStash extra scope change).2.alter made.change) := by
  unfold ActionState.changeStash
  rw [kept]
  cases (state.stash extra scope).bind change with
  | error failure => rfl
  | ok contents =>
      exact congrArg (fun context : StepContext =>
        ((.ok .null, ⟨context, state.notes⟩) : Except Failure Value × ActionState))
        (carried contents)

end ContextChange

namespace StepContext

def withFeatureStash (contents : Record) (context : StepContext) : StepContext :=
  { context with stash := { context.stash with feature := contents } }

def withStepText (text : Text) (context : StepContext) : StepContext :=
  { context with step := { context.step with text := text } }

end StepContext

namespace ContextChange

def featureStash (contents : Record) : ContextChange where
  change := .withFeatureStash contents
  verb_change _ := rfl
  text_change _ := rfl
  recorder_change _ := rfl
  change_recorder _ _ := rfl
  change_matched _ _ := rfl

theorem featureStash_hidden (contents : Record) :
    (featureStash contents).HiddenFrom ActionOp.touchesFeatureStash := by
  intro extra op state allowed
  cases op with
  | ok | todo => exact (featureStash contents).assert_alter state _ _
  | diag message =>
      exact (featureStash contents).assert_alter state .null fun recorder =>
        some (recorder.diag message)
  | finish =>
      exact (featureStash contents).assert_alter state .null fun recorder => some recorder.finish
  -- Of the four names of a stash only one stands for that of the feature.
  | stash scope =>
      cases scope with
      | feature => cases allowed
      | scenario | step => rfl
      | extra => cases extra <;> rfl
  | remember scope | forget scope =>
      cases scope with
      | feature => cases allowed
      | scenario | step | extra =>
          rw [ActionOp.run, ActionOp.run]
          refine changeStash_alter ?_ (fun _ => ?_) _
          · cases extra <;> rfl
          · rfl
  | _ => rfl

def stepText (text : Text) : ContextChange where
  change := .withStepText text
  verb_change _ := rfl
  text_change _ := rfl
  recorder_change _ := rfl
  change_recorder _ _ := rfl
  change_matched _ _ := rfl

theorem stepText_hidden (text : Text) :
    (stepText text).HiddenFrom ActionOp.readsStepText := by
  intro extra op state allowed
  cases op with
  | ok | todo => exact (stepText text).assert_alter state _ _
  | diag message =>
      exact (stepText text).assert_alter state .null fun recorder => some (recorder.diag message)
  | finish => exact (stepText text).assert_alter state .null fun recorder => some recorder.finish
  | stepText => cases allowed
  | stash scope => cases scope <;> cases extra <;> rfl
  | remember scope | forget scope =>
      rw [ActionOp.run, ActionOp.run]
      refine changeStash_alter ?_ (fun _ => ?_) _
      · cases scope <;> cases extra <;> rfl
      · cases scope <;> rfl
  | _ => rfl

end ContextChange

end FeatureRunner
