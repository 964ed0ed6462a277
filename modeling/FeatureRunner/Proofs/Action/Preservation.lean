import FeatureRunner.Action.Program

/-!
# What actions leave alone

An action may change the text and the data of its context, its stashes and its recorder.  It
never changes which step it works on, the verb or the match.
-/

namespace FeatureRunner

/-- What every operation keeps, a whole program keeps. -/
theorem ActionProgram.run_keeps {α : Type} (view : StepContext → α) {extra : Bool}
    (kept : ∀ (op : ActionOp) (state : ActionState),
      view (op.run extra state).2.context = view state.context)
    (program : ActionProgram) (state : ActionState) :
    view (program.run extra state).2.context = view state.context := by
  induction program generalizing state with
  | done => rfl
  | fail failure => rfl
  | perform op next ih =>
      calc
        view (((next (op.run extra state).1).run extra (op.run extra state).2).2.context) =
            view (op.run extra state).2.context := ih _ _
        _ = view state.context := kept op state

/-- What every operation keeps, calling an action keeps. -/
theorem Action.call_keeps {α : Type} (view : StepContext → α) {extra : Bool}
    (kept : ∀ (op : ActionOp) (state : ActionState),
      view (op.run extra state).2.context = view state.context)
    (action : Action) (state : ActionState) :
    view (action.call extra state).2.context = view state.context := by
  unfold Action.call
  split
  · rfl
  · exact ActionProgram.run_keeps view kept action.program state

namespace ActionState

/-- An assertion changes at most the contents of the recorder. -/
theorem assert_context (state : ActionState) (reply : Value)
    (change : Recorder → Option Recorder) :
    (state.assert reply change).2.context = state.context ∨
      ∃ recorder changed, state.context.recorder = some recorder ∧
        change recorder = some changed ∧
        (state.assert reply change).2.context =
          { state.context with recorder := some changed } := by
  unfold assert
  split
  · exact .inl rfl
  · next recorder found =>
    split
    · exact .inl rfl
    · next changed accepted => exact .inr ⟨recorder, changed, found, accepted, rfl⟩

/-- Changing a stash changes at most the stashes. -/
theorem exists_changeStash_context (extra : Bool) (state : ActionState) (scope : StashScope)
    (change : Record → Except Failure Record) :
    ∃ stash, (state.changeStash extra scope change).2.context =
      { state.context with stash := stash } := by
  unfold changeStash
  cases (state.stash extra scope).bind change with
  | error failure => exact ⟨state.context.stash, rfl⟩
  | ok contents => exact ⟨_, rfl⟩

end ActionState

namespace ActionOp

variable (extra : Bool) (state : ActionState)

/-- Which step an operation works on, its verb and its match stay the same. -/
theorem run_subject (op : ActionOp) :
    ((op.run extra state).2.context.step, (op.run extra state).2.context.verb,
        (op.run extra state).2.context.matched) =
      (state.context.step, state.context.verb, state.context.matched) := by
  have asserted (reply : Value) (change : Recorder → Option Recorder) :
      ((state.assert reply change).2.context.step, (state.assert reply change).2.context.verb,
          (state.assert reply change).2.context.matched) =
        (state.context.step, state.context.verb, state.context.matched) := by
    rcases state.assert_context reply change with same | ⟨_, _, _, _, changed⟩
    · rw [same]
    · rw [changed]
  cases op with
  | ok | todo | diag | finish => exact asserted _ _
  | remember scope | forget scope =>
      obtain ⟨stash, changed⟩ := ActionState.exists_changeStash_context extra state scope _
      rw [run, changed]
  | _ => rfl

end ActionOp

namespace Action

variable (action : Action) (extra : Bool) (state : ActionState)

theorem call_subject :
    ((action.call extra state).2.context.step, (action.call extra state).2.context.verb,
        (action.call extra state).2.context.matched) =
      (state.context.step, state.context.verb, state.context.matched) :=
  call_keeps (fun context => (context.step, context.verb, context.matched))
    (fun op state => op.run_subject extra state) action state

@[simp]
theorem call_step : (action.call extra state).2.context.step = state.context.step :=
  congrArg Prod.fst (action.call_subject extra state)

@[simp]
theorem call_verb : (action.call extra state).2.context.verb = state.context.verb :=
  congrArg (fun subject => subject.2.1) (action.call_subject extra state)

end Action

end FeatureRunner
