import FeatureRunner.Proofs.Run.Walk
import Mathlib.Data.List.Forall2

/-!
# The turns of a walk

A walk takes the steps of its moves one after the other.  A turn is one of these steps together
with where the run stands when it comes to it, so that the turn determines the course of the
step.

For walks that return, this file reads the results and the invocations off the turns, and cuts
the turns of a list of rows into one block for each row.
-/

namespace FeatureRunner

/-- A step that a run comes to: for which row, which step, and where the run stands. -/
structure StepTurn where
  row : Record
  step : Step
  standing : Standing

namespace StepTurn

/-- Which step it is, and for which row. -/
def subject (turn : StepTurn) : Record × Step := (turn.row, turn.step)

/-- The course that the step takes. -/
def course (turn : StepTurn) (dispatcher : Dispatcher) : StepCourse :=
  dispatcher.stepCourse turn.row turn.step turn.standing

end StepTurn

namespace Move

/-- The turn of a move, if it runs a step. -/
def turn? (standing : Standing) : Move → Option StepTurn
  | .step row own => some ⟨row, own, standing⟩
  | .openRow _ _ _ => none
  | .closeRow _ _ => none

/-- The step of a move, if it runs one, and its row. -/
def subject? : Move → Option (Record × Step)
  | .step row own => some (row, own)
  | .openRow _ _ _ => none
  | .closeRow _ _ => none

theorem map_subject_turn? (standing : Standing) (move : Move) :
    (move.turn? standing).map StepTurn.subject = move.subject? := by
  cases move <;> rfl

end Move

namespace Scenario

/-- The steps of a background with their rows, in the order in which they run. -/
def backgroundSteps : Option Scenario → List (Record × Step)
  | none => []
  | some background => background.rows.flatMap fun row => background.steps.map fun step =>
    (row, step)

/-- The steps of one row of a scenario with their rows, those of the background first. -/
def rowSteps (background : Option Scenario) (scenario : Scenario) (row : Record) :
    List (Record × Step) :=
  backgroundSteps background ++ scenario.steps.map fun step => (row, step)

theorem filterMap_subject?_rowMoves (sharing : RowSharing) (scenario : Scenario)
    (before : List Move) (row : Record) :
    (scenario.rowMoves sharing before row).filterMap Move.subject? =
      before.filterMap Move.subject? ++ scenario.steps.map fun step => (row, step) := by
  have own : (Move.subject? ∘ fun step => Move.step row step) =
      fun step => some (row, step) := rfl
  simp [rowMoves, List.filterMap_cons, Move.subject?, List.filterMap_map, own]

theorem filterMap_subject?_backgroundMoves (background : Option Scenario) :
    (backgroundMoves background).filterMap Move.subject? = backgroundSteps background := by
  cases background with
  | none => rfl
  | some background =>
      simp [backgroundMoves, backgroundSteps, List.filterMap_flatMap,
        filterMap_subject?_rowMoves]

end Scenario

namespace Dispatcher

variable (dispatcher : Dispatcher)

/-- The turns of a walk that returns. -/
def turns : List Move → Standing → List StepTurn
  | [], _ => []
  | move :: rest, standing =>
    (move.turn? standing).toList ++ turns rest (dispatcher.passage move standing).standing

/-- Which steps a walk takes depends only on its moves. -/
theorem map_subject_turns (moves : List Move) (standing : Standing) :
    (dispatcher.turns moves standing).map StepTurn.subject = moves.filterMap Move.subject? := by
  induction moves generalizing standing with
  | nil => rfl
  | cons move rest ih =>
      rw [turns, List.map_append, ih, List.filterMap_cons, ← move.map_subject_turn? standing]
      cases move.turn? standing <;> rfl

theorem turns_append_of_ok {first second : List Move} {standing : Standing}
    {earlier : List Result} (returns : (dispatcher.walk first standing).outcome = .ok earlier) :
    dispatcher.turns (first ++ second) standing =
      dispatcher.turns first standing ++
        dispatcher.turns second (dispatcher.walk first standing).standing := by
  induction first generalizing standing earlier with
  | nil => rfl
  | cons move rest ih =>
      obtain ⟨own, others, moved, walked, rfl⟩ := dispatcher.walk_cons_returns returns
      rw [List.cons_append, turns, turns, ih walked, dispatcher.walk_cons_of_ok moved,
        List.append_assoc]

/-- A walk that returns has returned from its first part. -/
theorem walk_append_returns {first second : List Move} {standing : Standing}
    {results : List Result}
    (returns : (dispatcher.walk (first ++ second) standing).outcome = .ok results) :
    ∃ earlier later, (dispatcher.walk first standing).outcome = .ok earlier ∧
      (dispatcher.walk second (dispatcher.walk first standing).standing).outcome = .ok later ∧
      results = earlier ++ later := by
  cases front : (dispatcher.walk first standing).outcome with
  | error abort =>
      rw [dispatcher.walk_append_of_error front, front] at returns
      cases returns
  | ok earlier =>
      rw [dispatcher.walk_append_of_ok front] at returns
      cases back : (dispatcher.walk second
        (dispatcher.walk first standing).standing).outcome with
      | error abort =>
          rw [back] at returns
          cases returns
      | ok later =>
          rw [back] at returns
          cases returns
          exact ⟨earlier, later, rfl, rfl, rfl⟩

/-- What a move that returns has done: the result of its turn if it has one, and nothing else
but callbacks. -/
theorem passage_returns {move : Move} {standing : Standing} {results : List Result}
    (returns : (dispatcher.passage move standing).outcome = .ok results) :
    (move.turn? standing).toList.map (fun turn => (turn.course dispatcher).outcome) =
        results.map .ok ∧
      (dispatcher.passage move standing).events.invocations =
        (move.turn? standing).toList.filterMap fun turn =>
          (turn.course dispatcher).invocation := by
  cases move with
  | openRow sharing scenario row =>
      have opening := dispatcher.passage_openRow_of_returns returns
      rw [opening] at returns ⊢
      cases returns
      exact ⟨rfl, rfl⟩
  | closeRow scenario row =>
      cases returns
      exact ⟨rfl, rfl⟩
  | step row step =>
      obtain ⟨result, ready, rfl, outcome⟩ := dispatcher.passage_step_returns returns
      constructor
      · simp [Move.turn?, StepTurn.course, outcome]
      · rw [dispatcher.events_passage_step ready]
        cases invoked : (dispatcher.stepCourse row step standing).invocation <;>
          simp [Move.turn?, StepTurn.course, invoked]

/-- The results and the invocations of a walk that returns are those of its turns. -/
theorem walk_returns {moves : List Move} {standing : Standing} {results : List Result}
    (returns : (dispatcher.walk moves standing).outcome = .ok results) :
    (dispatcher.turns moves standing).map (fun turn => (turn.course dispatcher).outcome) =
        results.map .ok ∧
      (dispatcher.walk moves standing).events.invocations =
        (dispatcher.turns moves standing).filterMap fun turn =>
          (turn.course dispatcher).invocation := by
  induction moves generalizing standing results with
  | nil =>
      cases returns
      exact ⟨rfl, rfl⟩
  | cons move rest ih =>
      obtain ⟨own, others, moved, walked, rfl⟩ := dispatcher.walk_cons_returns returns
      obtain ⟨ownResults, ownInvocations⟩ := dispatcher.passage_returns moved
      obtain ⟨otherResults, otherInvocations⟩ := ih walked
      rw [dispatcher.walk_cons_of_ok moved, turns]
      constructor
      · rw [List.map_append, ownResults, otherResults, List.map_append]
      · rw [Journal.invocations_append, ownInvocations, otherInvocations,
          List.filterMap_append]

/-- The turns of a walk through several parts are cut into blocks, one for each part. -/
theorem exists_blocks {Part : Type} (movesOf : Part → List Move) {parts : List Part}
    {standing : Standing} {results : List Result}
    (returns : (dispatcher.walk (parts.flatMap movesOf) standing).outcome = .ok results) :
    ∃ blocks : List (List StepTurn),
      dispatcher.turns (parts.flatMap movesOf) standing = blocks.flatten ∧
      List.Forall₂ (fun part block => ∃ begun own,
        (dispatcher.walk (movesOf part) begun).outcome = .ok own ∧
          block = dispatcher.turns (movesOf part) begun) parts blocks := by
  induction parts generalizing standing results with
  | nil => exact ⟨[], rfl, .nil⟩
  | cons part rest ih =>
      rw [List.flatMap_cons] at returns ⊢
      obtain ⟨own, others, walked, walkedOn, rfl⟩ := dispatcher.walk_append_returns returns
      obtain ⟨blocks, cut, parted⟩ := ih walkedOn
      refine ⟨dispatcher.turns (movesOf part) standing :: blocks, ?_, ?_⟩
      · rw [dispatcher.turns_append_of_ok walked, cut, List.flatten_cons]
      · exact .cons ⟨standing, own, walked, rfl⟩ parted

end Dispatcher

end FeatureRunner
