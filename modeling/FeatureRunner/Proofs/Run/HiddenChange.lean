import FeatureRunner.Proofs.Action.Avoidance
import FeatureRunner.Proofs.Registry.Lookup
import FeatureRunner.Proofs.Run.StepCourse

/-!
# Hidden changes and the course of a step

A change of contexts that is hidden from the actions of a dispatcher is hidden from its
dispatches too: the step takes the same course, on changed contexts, to the same result.
-/

namespace FeatureRunner

def StepCourse.map (change : StepContext → StepContext) (course : StepCourse) : StepCourse :=
  ⟨change course.started, course.invocation.map (Prod.map change change), change course.ended,
    course.outcome⟩

/-- The actions that a dispatcher can find for a step avoid operations. -/
def Dispatcher.Avoids (avoided : ActionOp → Bool) (dispatcher : Dispatcher) : Prop :=
  ∀ (verb text : Text) (definition : StepDefinition) (found : PatternMatch),
    dispatcher.registry.find verb text = some (definition, found) →
      definition.action.Avoids avoided dispatcher.extraFields

/-- If all registered actions avoid operations, the dispatcher does. -/
theorem Dispatcher.avoids_of_buckets {avoided : ActionOp → Bool} {dispatcher : Dispatcher}
    (avoid : ∀ bucket ∈ dispatcher.registry.buckets, ∀ definition ∈ bucket.2,
      definition.action.Avoids avoided dispatcher.extraFields) : dispatcher.Avoids avoided := by
  intro verb text definition found sought
  obtain ⟨bucket, among, member⟩ := Registry.exists_bucket_of_find sought
  exact avoid bucket among definition member

theorem Dispatcher.avoids_of_definition {avoided : ActionOp → Bool} {definition : StepDefinition}
    {mode : RunMode} (avoids : definition.action.Avoids avoided mode.extraFields) (verb : Text) :
    Dispatcher.Avoids avoided ⟨⟨[(verb, [definition])]⟩, mode⟩ := by
  apply avoids_of_buckets
  intro bucket among other member
  rw [List.mem_singleton.mp among] at member
  rw [List.mem_singleton.mp member]
  exact avoids

namespace ContextChange

variable (made : ContextChange)

theorem skipped_change (context : StepContext) (result : Result) :
    StepCourse.skipped (made.change context) result =
      (StepCourse.skipped context result).map made.change :=
  rfl

theorem unprepared_change (context : StepContext) (reason : Text) :
    StepCourse.unprepared (made.change context) reason =
      (StepCourse.unprepared context reason).map made.change := by
  have sameRecorder : StepCourse.unpreparedRecorder (made.change context) reason =
      StepCourse.unpreparedRecorder context reason := by
    unfold StepCourse.unpreparedRecorder
    rw [made.verb_change, made.text_change]
  simp only [StepCourse.unprepared, StepCourse.map, sameRecorder, Option.map_none,
    made.change_recorder context (some .empty),
    made.change_recorder context (some (StepCourse.unpreparedRecorder context reason))]

theorem startedContext_change (context : StepContext) :
    Dispatcher.startedContext (made.change context) =
      made.change (Dispatcher.startedContext context) := by
  have carried := made.change_recorder context
    (Recorder.empty.ok? true ("Starting to execute step: ".toList ++ context.text))
  simp only [Dispatcher.startedContext, carried, made.text_change]

theorem actionContext_change (context : StepContext) (found : PatternMatch) :
    Dispatcher.actionContext (made.change context) found =
      made.change (Dispatcher.actionContext context found) := by
  unfold Dispatcher.actionContext
  rw [startedContext_change]
  exact (made.change_matched _ found.groups).symm

theorem undefinedReason_change (context : StepContext) :
    Dispatcher.undefinedReason (made.change context) = Dispatcher.undefinedReason context := by
  unfold Dispatcher.undefinedReason
  rw [made.verb_change, made.text_change]

variable {made} {dispatcher : Dispatcher} {avoided : ActionOp → Bool}

namespace HiddenFrom

theorem callIn_change (hidden : made.HiddenFrom avoided) {definition : StepDefinition}
    (avoids : definition.action.Avoids avoided dispatcher.extraFields) (context : StepContext) :
    dispatcher.callIn definition (made.change context) =
      ((dispatcher.callIn definition context).1,
        made.change (dispatcher.callIn definition context).2) := by
  have called := hidden.call avoids ⟨context, []⟩
  exact congrArg (fun called => (called.1, called.2.context)) called

theorem invokedCourse_change (hidden : made.HiddenFrom avoided) {definition : StepDefinition}
    (avoids : definition.action.Avoids avoided dispatcher.extraFields) (context : StepContext)
    (found : PatternMatch) :
    dispatcher.invokedCourse (made.change context) definition found =
      (dispatcher.invokedCourse context definition found).map made.change := by
  rcases called : dispatcher.callIn definition (Dispatcher.actionContext context found) with
    ⟨raised, after⟩
  have sameSettling : dispatcher.settled (raised, made.change after) =
      dispatcher.settled (raised, after) := by
    unfold Dispatcher.settled
    rw [made.recorder_change, made.text_change]
  have sameLeaving : dispatcher.abandoned (raised, made.change after) =
      made.change (dispatcher.abandoned (raised, after)) := by
    unfold Dispatcher.abandoned
    simp only [made.recorder_change]
    exact (made.change_recorder after (dispatcher.abandon after.recorder raised)).symm
  simp only [Dispatcher.invokedCourse, made.actionContext_change, hidden.callIn_change avoids,
    called, sameSettling, sameLeaving, made.startedContext_change]
  cases dispatcher.settled (raised, after) with
  | error abort => rfl
  | ok recorder =>
      simp only [StepCourse.map, made.change_recorder after (some recorder.finish)]
      rfl

/-- A change that is hidden from all actions is hidden from every dispatch. -/
theorem courseOf_change (hidden : made.HiddenFrom avoided) (avoids : dispatcher.Avoids avoided)
    (shortCircuit : Bool) (context : StepContext) :
    dispatcher.courseOf shortCircuit (made.change context) =
      (dispatcher.courseOf shortCircuit context).map made.change := by
  unfold Dispatcher.courseOf
  rw [made.verb_change, made.text_change, made.undefinedReason_change]
  split
  · rfl
  · split
    · rfl
    · next definition found sought =>
      exact hidden.invokedCourse_change (avoids _ _ definition found sought) context found

end HiddenFrom

end ContextChange

end FeatureRunner
