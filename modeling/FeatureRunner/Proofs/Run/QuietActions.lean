import FeatureRunner.Proofs.Registry.Lookup
import FeatureRunner.Proofs.Run.FailureRecovery

/-!
# Runs of quiet actions

An action is quiet if its program raises nothing.  What can still go wrong when it is called is the
number of its arguments, and since this is found out ahead of everything else, it can be written
down as a failure.  So if all actions are quiet, the run of a feature returns, unless one of its
moves is held up: then it ends in front of the first such move.
-/

namespace FeatureRunner

/-- An action is quiet if its program raises nothing in any context that a dispatch makes. -/
def Action.IsQuiet (action : Action) : Prop :=
  ∀ extra context found,
    (action.program.run extra ⟨Dispatcher.actionContext context found, []⟩).1 = none

/-- A text can be told in every notice. -/
theorem Dispatcher.noticeFlaw?_text (dispatcher : Dispatcher) (content : Text) :
    dispatcher.noticeFlaw? (.text content) = none := by
  unfold noticeFlaw?
  split <;> rfl

/-- The failure of calling an action with a wrong number of arguments is an error that can be told.
-/
theorem Action.role_of_wrongArguments {action : Action} {extra : Bool} {failure : Failure}
    (wrong : action.wrongArguments? extra = some failure) (dispatcher : Dispatcher) :
    failure.role = .error ∧ dispatcher.untold? failure = none := by
  have tells (message : String) :
      dispatcher.untold? (Failure.ofText "TypeError" message) = none := by
    have noticed : dispatcher.noticeFlaw? (.text message.toList) = none :=
      dispatcher.noticeFlaw?_text message.toList
    simp only [Dispatcher.untold?, Failure.ofText, Failure.role, Failure.detail, Option.bind_some,
      noticed]
    rfl
  unfold wrongArguments? at wrong
  split at wrong
  · cases wrong
    exact ⟨rfl, tells _⟩
  · cases wrong
    exact ⟨rfl, tells _⟩
  · cases wrong

namespace Dispatcher

/-- The actions that a dispatcher can find for a step are quiet. -/
def IsQuiet (dispatcher : Dispatcher) : Prop :=
  ∀ (verb text : Text) (definition : StepDefinition) (found : PatternMatch),
    dispatcher.registry.find verb text = some (definition, found) → definition.action.IsQuiet

theorem isQuiet_of_buckets {dispatcher : Dispatcher}
    (quiet : ∀ bucket ∈ dispatcher.registry.buckets, ∀ definition ∈ bucket.2,
      definition.action.IsQuiet) : dispatcher.IsQuiet := by
  intro verb text definition found sought
  obtain ⟨bucket, among, member⟩ := Registry.exists_bucket_of_find sought
  exact quiet bucket among definition member

variable {dispatcher : Dispatcher}

theorem recovers_of_isQuiet {definition : StepDefinition} (quiet : definition.action.IsQuiet)
    (context : StepContext) (found : PatternMatch) :
    dispatcher.Recovers definition (actionContext context found) := by
  intro failure raised
  rw [callIn, Action.call] at raised ⊢
  cases wrong : definition.action.wrongArguments? dispatcher.extraFields with
  | some refusal =>
      -- The action was not even begun, so the recorder is as the dispatch made it.
      rw [wrong] at raised
      cases raised
      obtain ⟨isError, told⟩ := Action.role_of_wrongArguments wrong dispatcher
      exact ⟨by simp [isError], told, rfl⟩
  | none =>
      rw [wrong] at raised
      have silent := quiet dispatcher.extraFields context found
      cases silent.symm.trans raised

/-- An action gets its context from a dispatch. -/
theorem exists_actionContext_of_courseOf {shortCircuit : Bool} {context : StepContext}
    {invocation : StepContext × StepContext}
    (invoked : (dispatcher.courseOf shortCircuit context).invocation = some invocation) :
    ∃ found, invocation.1 = actionContext context found := by
  unfold courseOf at invoked
  split at invoked
  · cases invoked
  · split at invoked
    · cases invoked
    · next definition found _ =>
      rw [invokedCourse_invocation] at invoked
      cases invoked
      exact ⟨found, rfl⟩

variable (quiet : dispatcher.IsQuiet)

include quiet

theorem courseOf_returns_of_isQuiet (shortCircuit : Bool) (context : StepContext) :
    ∃ result, (dispatcher.courseOf shortCircuit context).outcome = .ok result := by
  rw [courseOf_returns_iff]
  rintro ⟨before, after⟩ invoked definition found sought
  obtain ⟨_, rfl⟩ := exists_actionContext_of_courseOf invoked
  exact recovers_of_isQuiet (quiet _ _ _ _ sought) context _

theorem stepCourse_returns_of_isQuiet (row : Record) (step : Step) (standing : Standing) :
    ∃ result, (dispatcher.stepCourse row step standing).outcome = .ok result := by
  unfold stepCourse
  split
  · exact courseOf_returns_of_isQuiet quiet _ _
  · split
    · exact ⟨_, rfl⟩
    · exact ⟨_, rfl⟩

theorem passage_returns_of_isQuiet {move : Move} (ready : dispatcher.obstacle? move = none)
    (standing : Standing) :
    ∃ results, (dispatcher.passage move standing).outcome = .ok results := by
  cases move with
  | openRow sharing scenario row =>
      rw [dispatcher.passage_openRow (Option.map_eq_none_iff.mp ready)]
      exact ⟨[], rfl⟩
  | closeRow => exact ⟨[], rfl⟩
  | step row step =>
      obtain ⟨result, returns⟩ := stepCourse_returns_of_isQuiet quiet row step standing
      rw [dispatcher.passage_step_of_ok ready returns]
      exact ⟨[result], rfl⟩

/-- A walk past quiet actions ends in front of the first move that is held up, or else returns. -/
theorem walk_of_isQuiet (moves : List Move) (standing : Standing) :
    match moves.findSome? dispatcher.obstacle? with
    | some failure => (dispatcher.walk moves standing).outcome = .error (.exit failure)
    | none => ∃ results, (dispatcher.walk moves standing).outcome = .ok results := by
  induction moves generalizing standing with
  | nil => exact ⟨[], rfl⟩
  | cons move rest ih =>
      rw [List.findSome?_cons]
      cases obstacle : dispatcher.obstacle? move with
      | some failure =>
          rw [dispatcher.walk_cons_of_obstacle obstacle]
          rfl
      | none =>
          obtain ⟨earlier, own⟩ := passage_returns_of_isQuiet quiet obstacle standing
          have later := ih (dispatcher.passage move standing).standing
          rw [dispatcher.walk_cons_of_ok own]
          cases held : rest.findSome? dispatcher.obstacle? with
          | some failure =>
              rw [held] at later
              simp only [later, Except.map]
          | none =>
              rw [held] at later
              obtain ⟨others, walked⟩ := later
              simp only [walked, Except.map]
              exact ⟨earlier ++ others, rfl⟩

/-- If all actions are quiet, the run of a feature ends in front of the first move that is held up,
or else returns. -/
theorem runFeature_of_isQuiet (selection : Selection) (feature : Feature) (state : RunState) :
    match (featureMoves selection feature).findSome? dispatcher.obstacle? with
    | some failure =>
      ((dispatcher.runFeature selection feature).run state).1 = .error (.exit failure)
    | none => ∃ results, ((dispatcher.runFeature selection feature).run state).1 = .ok results := by
  obtain ⟨observer, -, runs⟩ := dispatcher.exists_run_runFeature selection feature state
  rw [runs, outcome_featurePassage]
  exact walk_of_isQuiet quiet (featureMoves selection feature) _

end Dispatcher

end FeatureRunner
