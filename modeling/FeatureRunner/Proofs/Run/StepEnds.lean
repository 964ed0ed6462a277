import FeatureRunner.Proofs.Report.Rows

/-!
# The ends of steps on a walk

A step whose course has a result is told at its end, and nothing else is told as the end of a step.
So every end of a step that a run tells belongs to a step among its moves, wherever the run stood
when it came to that step.
-/

namespace FeatureRunner

theorem StepCourse.stepEnds_events (course : StepCourse) :
    course.events.stepEnds =
      match course.outcome with
      | .ok result => [⟨course.ended, result⟩]
      | .error _ => [] := by
  rw [Journal.stepEnds, course.callbacks_events]
  cases course.outcome <;> rfl

namespace Dispatcher

variable (dispatcher : Dispatcher)

/-- A move that is not held up tells the end of its step, if it has one that comes to its end. -/
theorem stepEnds_passage {move : Move} (ready : dispatcher.obstacle? move = none)
    (standing : Standing) :
    (dispatcher.passage move standing).events.stepEnds =
      (move.turn? standing).toList.flatMap fun turn =>
        (turn.course dispatcher).events.stepEnds := by
  cases move with
  | openRow sharing scenario row =>
      rw [dispatcher.passage_openRow (Option.map_eq_none_iff.mp ready),
        Journal.stepEnds_callback (stepEnd?_rowStarted ..)]
      rfl
  | closeRow scenario row =>
      rw [passage_closeRow, Journal.stepEnds_callback (stepEnd?_rowFinished ..)]
      rfl
  | step row step =>
      rw [dispatcher.events_passage_step ready]
      exact (List.flatMap_singleton _ _).symm

/-- A step that tells its end was not held up, and its course has the result. -/
theorem exists_step_of_mem_stepEnds_passage {move : Move} {standing : Standing} {ending : StepEnd}
    (told : ending ∈ (dispatcher.passage move standing).events.stepEnds) :
    ∃ row step, move = .step row step ∧
      (dispatcher.stepCourse row step standing).outcome = .ok ending.result := by
  cases obstacle : dispatcher.obstacle? move with
  | some failure =>
      rw [dispatcher.passage_of_obstacle obstacle] at told
      cases told
  | none =>
      rw [dispatcher.stepEnds_passage obstacle] at told
      cases move with
      | openRow | closeRow => cases told
      | step row step =>
          obtain ⟨turn, isTurn, among⟩ := List.mem_flatMap.mp told
          obtain rfl := List.mem_singleton.mp isTurn
          rw [StepCourse.stepEnds_events] at among
          refine ⟨row, step, rfl, ?_⟩
          split at among
          · next result returns =>
            rw [List.mem_singleton.mp among]
            exact returns
          · cases among

/-- Every end of a step that is told on a walk is that of a step among its moves. -/
theorem exists_step_of_mem_stepEnds {moves : List Move} {standing : Standing} {ending : StepEnd}
    (told : ending ∈ (dispatcher.walk moves standing).events.stepEnds) :
    ∃ (row : Record) (step : Step) (begun : Standing), .step row step ∈ moves ∧
      (dispatcher.stepCourse row step begun).outcome = .ok ending.result := by
  induction moves generalizing standing with
  | nil => cases told
  | cons move rest ih =>
      have own (toldFirst : ending ∈ (dispatcher.passage move standing).events.stepEnds) :
          ∃ (row : Record) (step : Step) (begun : Standing), .step row step ∈ move :: rest ∧
            (dispatcher.stepCourse row step begun).outcome = .ok ending.result := by
        obtain ⟨row, step, rfl, returns⟩ :=
          dispatcher.exists_step_of_mem_stepEnds_passage toldFirst
        exact ⟨row, step, standing, List.mem_cons_self, returns⟩
      cases moved : (dispatcher.passage move standing).outcome with
      | error abort =>
          rw [dispatcher.walk_cons_of_error moved] at told
          exact own told
      | ok results =>
          rw [dispatcher.walk_cons_of_ok moved, Journal.stepEnds_append] at told
          rcases List.mem_append.mp told with first | later
          · exact own first
          · obtain ⟨row, step, begun, among, returns⟩ := ih later
            exact ⟨row, step, begun, List.mem_cons_of_mem _ among, returns⟩

/-- The ends of steps that are told in a run of a feature are those of its walk. -/
theorem stepEnds_featurePassage (selection : Selection) (feature : Feature) (standing : Standing) :
    (dispatcher.featurePassage selection feature standing).events.stepEnds =
      (dispatcher.featureWalk selection feature standing).events.stepEnds := by
  have begins (journal : Journal) :
      Journal.stepEnds (.callback (.featureStarted feature) :: journal) = journal.stepEnds := rfl
  cases ending : (dispatcher.featureWalk selection feature standing).outcome with
  | error abort => rw [featurePassage_of_error ending, begins]
  | ok results =>
      rw [featurePassage_of_ok ending, begins, Journal.stepEnds_append,
        Journal.stepEnds_callback rfl, List.append_nil]

end Dispatcher

end FeatureRunner
