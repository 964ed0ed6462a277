import FeatureRunner.Run.Execution

/-!
# The moves of a run

A run walks nested loops: scenarios, their rows, the rows of the background inside each of them,
and steps.  Written out, the loops are one list of moves, each of which begins a row, runs a step
or ends a row.  The list depends on the feature alone.

A move may be held up: a row by a notice that cannot be put into words, and a step by a value for
its text that cannot be shown or by data that cannot be copied.  The run ends in front of such a
move.

This file writes the loops out and proves that running a scenario, or several, is running its
moves one after the other.
-/

namespace FeatureRunner

/-- A move of a run. -/
inductive Move where
  | openRow (sharing : RowSharing) (scenario : Scenario) (row : Record)
  | step (row : Record) (step : Step)
  | closeRow (scenario : Scenario) (row : Record)

/-- The failure that holds a step up while it is made ready for a row, if there is one. -/
def Step.obstacle? (row : Record) (step : Step) : Option Failure :=
  match Template.expand step.text row with
  | .error ⟨_, _, .unshown flaw⟩ => some (.ofShowFlaw flaw)
  | _ => if step.isCopyable then none else some Dispatcher.tooDeepToCopy

/-- The failure that holds a move up, if there is one. -/
def Dispatcher.obstacle? (dispatcher : Dispatcher) : Move → Option Failure
  | .openRow _ _ row => (dispatcher.noticeFlaw? (.record row)).map .ofShowFlaw
  | .step row step => step.obstacle? row
  | .closeRow _ _ => none

/-- What holds a move up depends on the way of running alone. -/
theorem Dispatcher.obstacle?_eq_of_mode {dispatcher other : Dispatcher}
    (same : other.mode = dispatcher.mode) (move : Move) :
    other.obstacle? move = dispatcher.obstacle? move := by
  cases move with
  | openRow sharing scenario row => simp only [obstacle?, noticeFlaw?, same]
  | step row step => rfl
  | closeRow scenario row => rfl

/-- Whatever holds a move up is an ordinary error. -/
theorem Dispatcher.role_of_obstacle {dispatcher : Dispatcher} {move : Move} {failure : Failure}
    (held : dispatcher.obstacle? move = some failure) : failure.role = .error := by
  cases move with
  | openRow sharing scenario row =>
      obtain ⟨flaw, -, rfl⟩ := Option.map_eq_some_iff.mp held
      rfl
  | closeRow scenario row => cases held
  | step row step =>
      unfold obstacle? Step.obstacle? at held
      dsimp only at held
      split at held
      · cases held
        rfl
      · split at held
        · cases held
        · cases held
          rfl

/-- A step whose text is filled in is held up only by its data. -/
theorem Step.obstacle?_of_filled {row : Record} {step : Step} {text : Text}
    (filled : Template.expand step.text row = .ok text) :
    step.obstacle? row = if step.isCopyable then none else some Dispatcher.tooDeepToCopy := by
  rw [obstacle?, filled]

/-- A step that is held up, while all values for its text can be shown, has data that are too deep.
-/
theorem Step.uncopied_of_obstacle {row : Record} {step : Step} {failure : Failure}
    (held : step.obstacle? row = some failure)
    (shown : ∀ name text flaw, Template.expand step.text row ≠ .error ⟨name, text, .unshown flaw⟩) :
    step.isCopyable = false ∧ failure = Dispatcher.tooDeepToCopy := by
  unfold obstacle? at held
  split at held
  · next name text flaw fails => exact absurd fails (shown name text flaw)
  · cases copyable : step.isCopyable with
    | true => simp [copyable] at held
    | false => simpa [copyable, eq_comm] using held

/-- A step that is not held up has data that can be copied. -/
theorem Step.isCopyable_of_ready {row : Record} {step : Step} (ready : step.obstacle? row = none) :
    step.isCopyable = true := by
  unfold obstacle? at ready
  split at ready
  · cases ready
  · simpa using ready

/-- The notice about a row without values can always be put into words. -/
theorem Dispatcher.noticeFlaw?_empty (dispatcher : Dispatcher) :
    dispatcher.noticeFlaw? (.record []) = none := by
  unfold noticeFlaw?
  split <;> rfl

theorem Dispatcher.obstacle?_openRow_of_flaw {dispatcher : Dispatcher} {row : Record}
    {flaw : ShowFlaw} (unshown : dispatcher.noticeFlaw? (.record row) = some flaw)
    (sharing : RowSharing) (scenario : Scenario) :
    dispatcher.obstacle? (.openRow sharing scenario row) = some (.ofShowFlaw flaw) := by
  rw [obstacle?, unshown, Option.map_some]

namespace Scenario

/-- Every scenario runs for a row at least. -/
theorem rows_ne_nil (scenario : Scenario) : scenario.rows ≠ [] := by
  unfold rows
  split
  · exact List.cons_ne_nil _ _
  · assumption

/-- The scenario with one row alone. -/
def only (scenario : Scenario) (row : Record) : Scenario := { scenario with data := [row] }

/-- The moves of one row of a scenario; those of `before` come ahead of its own steps. -/
def rowMoves (sharing : RowSharing) (scenario : Scenario) (before : List Move) (row : Record) :
    List Move :=
  .openRow sharing scenario row ::
    (before ++ (scenario.steps.map (.step row) ++ [.closeRow scenario row]))

/-- The moves of the replay of a background, if there is one. -/
def backgroundMoves : Option Scenario → List Move
  | none => []
  | some background => background.rows.flatMap (background.rowMoves ⟨true, true⟩ [])

/-- The moves of a scenario. -/
def moves (sharing : RowSharing) (background : Option Scenario) (scenario : Scenario) :
    List Move :=
  scenario.rows.flatMap (scenario.rowMoves sharing (backgroundMoves background))

/-- The rows of several scenarios in the order in which they run, each with its scenario. -/
def outlineRows (scenarios : List Scenario) : List (Scenario × Record) :=
  scenarios.flatMap fun scenario => scenario.rows.map fun row => (scenario, row)

@[simp]
theorem outlineRows_cons (scenario : Scenario) (rest : List Scenario) :
    outlineRows (scenario :: rest) =
      scenario.rows.map (fun row => (scenario, row)) ++ outlineRows rest :=
  List.flatMap_cons

/-- The moves of a row that stands by itself. -/
def outlineMoves (background : Option Scenario) (row : Scenario × Record) : List Move :=
  row.1.rowMoves ⟨false, false⟩ (backgroundMoves background) row.2

end Scenario

namespace Dispatcher

open RunM

variable (dispatcher : Dispatcher)

/-- Makes a move: the results that come of it. -/
def runMove : Move → RunM (List Result)
  | .openRow sharing scenario row => do
    dispatcher.noticeRow scenario row
    modify (RunState.enterRow sharing)
    let state ← get
    tell (rowStarted scenario row
      ((Record.get? state.scenarioStash "longest_step_line".toList).getD .null))
    return []
  | .step row step => do
    let result ← dispatcher.runStep row step
    if !result.passed then modify RunState.arm
    return [result]
  | .closeRow scenario row => do
    tell (rowFinished scenario row)
    return []

/-- Makes moves in order. -/
def runMoves : List Move → RunM (List Result)
  | [] => return []
  | move :: rest => do
    let first ← dispatcher.runMove move
    let others ← runMoves rest
    return first ++ others

theorem runMoves_append (first second : List Move) :
    dispatcher.runMoves (first ++ second) = (do
      let earlier ← dispatcher.runMoves first
      let later ← dispatcher.runMoves second
      return earlier ++ later) := by
  induction first with
  | nil => simp [runMoves]
  | cons move rest ih =>
      rw [List.cons_append, runMoves, runMoves, ih]
      simp only [bind_assoc, pure_bind, List.append_assoc]

theorem runSteps_eq (row : Record) (steps : List Step) :
    dispatcher.runSteps row steps = dispatcher.runMoves (steps.map (.step row)) := by
  induction steps with
  | nil => rfl
  | cons step rest ih =>
      rw [runSteps, List.map_cons, runMoves, runMove, ih, bind_assoc]
      congr 1
      funext result
      cases result.passed <;> simp

/-- A row runs by its moves if what comes ahead of its steps does. -/
theorem runRow_eq {before : RunM (List Result)} {moves : List Move}
    (ahead : before = dispatcher.runMoves moves) (sharing : RowSharing) (scenario : Scenario)
    (row : Record) :
    dispatcher.runRow sharing scenario before row =
      dispatcher.runMoves (scenario.rowMoves sharing moves row) := by
  simp [runRow, Scenario.rowMoves, runMoves, runMove, runMoves_append, runSteps_eq, ahead]

theorem runRows_eq {before : RunM (List Result)} {moves : List Move}
    (ahead : before = dispatcher.runMoves moves) (sharing : RowSharing) (scenario : Scenario)
    (rows : List Record) :
    dispatcher.runRows sharing scenario before rows =
      dispatcher.runMoves (rows.flatMap (scenario.rowMoves sharing moves)) := by
  induction rows with
  | nil => rfl
  | cons row rest ih =>
      rw [List.flatMap_cons, runMoves_append, runRows, ih,
        dispatcher.runRow_eq ahead sharing scenario row]

theorem runBackground_eq (background : Option Scenario) :
    dispatcher.runBackground background =
      dispatcher.runMoves (Scenario.backgroundMoves background) := by
  cases background with
  | none => rfl
  | some background =>
      have nothing : (pure [] : RunM (List Result)) = dispatcher.runMoves [] := rfl
      exact dispatcher.runRows_eq nothing ⟨true, true⟩ background background.rows

/-- Running a scenario is making its moves. -/
theorem runScenario_eq (sharing : RowSharing) (background : Option Scenario)
    (scenario : Scenario) :
    dispatcher.runScenario sharing background scenario =
      dispatcher.runMoves (scenario.moves sharing background) :=
  dispatcher.runRows_eq (dispatcher.runBackground_eq background) sharing scenario scenario.rows

/-- Running scenarios is making the moves of their rows. -/
theorem runScenarios_eq (background : Option Scenario) (scenarios : List Scenario) :
    dispatcher.runScenarios background scenarios =
      dispatcher.runMoves
        ((Scenario.outlineRows scenarios).flatMap (Scenario.outlineMoves background)) := by
  induction scenarios with
  | nil => rfl
  | cons scenario rest ih =>
      have own : scenario.moves ⟨false, false⟩ background =
          (scenario.rows.map fun row => (scenario, row)).flatMap
            (Scenario.outlineMoves background) := by
        rw [List.flatMap_map]
        rfl
      rw [runScenarios, ih, runScenario_eq, own, Scenario.outlineRows_cons,
        List.flatMap_append, runMoves_append]

end Dispatcher

end FeatureRunner
