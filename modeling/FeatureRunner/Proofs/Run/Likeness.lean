import FeatureRunner.Proofs.Run.HiddenChange
import FeatureRunner.Proofs.Run.Listening
import Mathlib.Data.List.Forall2

/-!
# Walks that are alike

Two runs are compared by what their journals say about steps: which steps began and ended, in
which contexts and with which results, and which actions were invoked.  The contexts are seen by a
view, which may leave out a part of them; rows do not count.

Two lists of moves are alike if walking through them from related standings has the same outcome,
says the same about steps and ends in related standings.  This file proves that likeness is put
together from likeness of parts, and carries it over to runs of scenarios.
-/

namespace FeatureRunner

/-- An entry about a step, with its contexts as they are seen. -/
def JournalEntry.ofStep? (view : StepContext → StepContext) : JournalEntry → Option JournalEntry
  | .callback (.stepStarted context) => some (.callback (.stepStarted (view context)))
  | .callback (.stepFinished context result) =>
    some (.callback (.stepFinished (view context) result))
  | .invocation before after => some (.invocation (view before) (view after))
  | _ => none

namespace Journal

/-- What a journal says about steps, with the contexts as they are seen. -/
def stepsSeen (view : StepContext → StepContext) (journal : Journal) : Journal :=
  journal.filterMap (JournalEntry.ofStep? view)

variable (view : StepContext → StepContext)

@[simp]
theorem stepsSeen_append (first second : Journal) :
    stepsSeen view (first ++ second) = first.stepsSeen view ++ second.stepsSeen view :=
  List.filterMap_append ..

theorem stepsSeen_events (journal : Journal) :
    journal.events.stepsSeen view = journal.stepsSeen view := by
  rw [events, stepsSeen, List.filterMap_filter]
  refine congrArg (List.filterMap · journal) (funext fun entry => ?_)
  cases entry <;> rfl

/-- New events say the same about steps as the entries that they are taken from. -/
theorem stepsSeen_of_events {before after new : Journal}
    (grown : after.events = before.events ++ new) :
    after.stepsSeen view = before.stepsSeen view ++ new.stepsSeen view := by
  rw [← stepsSeen_events view after, grown, stepsSeen_append, stepsSeen_events]

end Journal

@[simp]
theorem Dispatcher.stepsSeen_rowStarted (view : StepContext → StepContext) (scenario : Scenario)
    (row : Record) (longestLine : Value) :
    Journal.stepsSeen view [.callback (rowStarted scenario row longestLine)] = [] := by
  unfold rowStarted
  split <;> rfl

@[simp]
theorem Dispatcher.stepsSeen_rowFinished (view : StepContext → StepContext)
    (scenario : Scenario) (row : Record) :
    Journal.stepsSeen view [.callback (rowFinished scenario row)] = [] := by
  unfold rowFinished
  split <;> rfl

/-- A course on changed contexts says the same about its step, if the view leaves out what was
changed. -/
theorem StepCourse.stepsSeen_map {view change : StepContext → StepContext}
    (hides : ∀ context, view (change context) = view context) (course : StepCourse) :
    (course.map change).events.stepsSeen view = course.events.stepsSeen view := by
  rcases course with ⟨started, _ | contexts, ended, _ | result⟩ <;>
    simp [StepCourse.map, StepCourse.events, StepCourse.closing, Journal.stepsSeen,
      JournalEntry.ofStep?, hides]

section Alike

variable (view : StepContext → StepContext) (related : Standing → Standing → Prop)

/-- Two parts of runs are alike if they have the same outcome, say the same about steps, and end
in related standings. -/
structure Passage.Alike {α : Type} (first second : Passage α) : Prop where
  outcome : first.outcome = second.outcome
  standing : related first.standing second.standing
  steps : first.events.stepsSeen view = second.events.stepsSeen view

/-- Two lists of moves are alike if the walks through them from related standings are. -/
def Dispatcher.Alike (dispatcher : Dispatcher) (first second : List Move) : Prop :=
  ∀ standing other, related standing other →
    (dispatcher.walk first standing).Alike view related (dispatcher.walk second other)

end Alike

namespace Dispatcher

variable {dispatcher : Dispatcher} {view : StepContext → StepContext}
  {related : Standing → Standing → Prop}

theorem alike_nil : dispatcher.Alike view related [] [] :=
  fun _ _ close => ⟨rfl, close, rfl⟩

theorem alike_refl (moves : List Move) : dispatcher.Alike view Eq moves moves := by
  rintro standing _ rfl
  exact ⟨rfl, rfl, rfl⟩

/-- After moves that are alike, alike walks go on from related standings. -/
theorem walk_cons_alike {move other : Move} {rest others : List Move}
    {standing otherStanding : Standing}
    (here : (dispatcher.passage move standing).Alike view related
      (dispatcher.passage other otherStanding))
    (later : dispatcher.Alike view related rest others) :
    (dispatcher.walk (move :: rest) standing).Alike view related
      (dispatcher.walk (other :: others) otherStanding) := by
  cases own : (dispatcher.passage move standing).outcome with
  | error abort =>
      rw [dispatcher.walk_cons_of_error own,
        dispatcher.walk_cons_of_error (here.outcome.symm.trans own)]
      exact ⟨rfl, here.standing, here.steps⟩
  | ok results =>
      have back := later _ _ here.standing
      rw [dispatcher.walk_cons_of_ok own,
        dispatcher.walk_cons_of_ok (here.outcome.symm.trans own)]
      refine ⟨by rw [back.outcome], back.standing, ?_⟩
      rw [Journal.stepsSeen_append, Journal.stepsSeen_append, here.steps, back.steps]

theorem alike_of_forall₂ {moves others : List Move}
    (each : List.Forall₂ (fun move other => ∀ standing otherStanding,
      related standing otherStanding →
        (dispatcher.passage move standing).Alike view related
          (dispatcher.passage other otherStanding)) moves others) :
    dispatcher.Alike view related moves others := by
  induction each with
  | nil => exact alike_nil
  | cons here _ ih => exact fun _ _ close => walk_cons_alike (here _ _ close) ih

theorem Alike.append {first other second otherSecond : List Move}
    (front : dispatcher.Alike view related first other)
    (back : dispatcher.Alike view related second otherSecond) :
    dispatcher.Alike view related (first ++ second) (other ++ otherSecond) := by
  intro standing otherStanding close
  have earlier := front standing otherStanding close
  cases own : (dispatcher.walk first standing).outcome with
  | error abort =>
      rw [dispatcher.walk_append_of_error own,
        dispatcher.walk_append_of_error (earlier.outcome.symm.trans own)]
      exact earlier
  | ok results =>
      have later := back _ _ earlier.standing
      rw [dispatcher.walk_append_of_ok own,
        dispatcher.walk_append_of_ok (earlier.outcome.symm.trans own)]
      refine ⟨by rw [later.outcome], later.standing, ?_⟩
      rw [Journal.stepsSeen_append, Journal.stepsSeen_append, earlier.steps, later.steps]

theorem Alike.flatMap {Part : Type} {movesOf othersOf : Part → List Move}
    (each : ∀ part, dispatcher.Alike view related (movesOf part) (othersOf part))
    (parts : List Part) :
    dispatcher.Alike view related (parts.flatMap movesOf) (parts.flatMap othersOf) := by
  induction parts with
  | nil => exact alike_nil
  | cons part rest ih =>
      rw [List.flatMap_cons, List.flatMap_cons]
      exact (each part).append ih

/-- Moves that are held up for the same reason are alike. -/
theorem passage_alike_of_obstacle {move other : Move} {failure : Failure}
    (held : dispatcher.obstacle? move = some failure)
    (otherHeld : dispatcher.obstacle? other = some failure) {standing otherStanding : Standing}
    (close : related standing otherStanding) :
    (dispatcher.passage move standing).Alike view related
      (dispatcher.passage other otherStanding) := by
  rw [dispatcher.passage_of_obstacle held, dispatcher.passage_of_obstacle otherHeld]
  exact ⟨rfl, close, rfl⟩

/-- Steps are alike if they are held up for the same reason, if there is one, one takes the course
of the other on changed contexts, the view leaves out what was changed, and the courses leave
related standings, whatever their result. -/
theorem passage_step_alike {row otherRow : Record} {step other : Step}
    {standing otherStanding : Standing} {change : StepContext → StepContext}
    (close : related standing otherStanding)
    (obstacles : other.obstacle? otherRow = step.obstacle? row)
    (course : dispatcher.stepCourse otherRow other otherStanding =
      (dispatcher.stepCourse row step standing).map change)
    (hides : ∀ context, view (change context) = view context)
    (left : related (standing.leftBy (dispatcher.stepCourse row step standing))
      (otherStanding.leftBy (dispatcher.stepCourse otherRow other otherStanding)))
    (noting : ∀ first second, related first second → ∀ result : Result,
      related (first.noting result) (second.noting result)) :
    (dispatcher.passage (.step row step) standing).Alike view related
      (dispatcher.passage (.step otherRow other) otherStanding) := by
  have sameOutcome : (dispatcher.stepCourse otherRow other otherStanding).outcome =
      (dispatcher.stepCourse row step standing).outcome := by
    rw [course]
    rfl
  have sameSteps : (dispatcher.stepCourse row step standing).events.stepsSeen view =
      (dispatcher.stepCourse otherRow other otherStanding).events.stepsSeen view := by
    rw [course, StepCourse.stepsSeen_map hides]
  cases obstacle : step.obstacle? row with
  | some failure =>
      have held : dispatcher.obstacle? (.step row step) = some failure := obstacle
      have otherHeld : dispatcher.obstacle? (.step otherRow other) = some failure :=
        obstacles.trans obstacle
      exact passage_alike_of_obstacle held otherHeld close
  | none =>
    have otherReady := obstacles.trans obstacle
    cases own : (dispatcher.stepCourse row step standing).outcome with
    | error abort =>
        rw [dispatcher.passage_step_of_error obstacle own,
          dispatcher.passage_step_of_error otherReady (sameOutcome.trans own)]
        exact ⟨rfl, left, sameSteps⟩
    | ok result =>
        rw [dispatcher.passage_step_of_ok obstacle own,
          dispatcher.passage_step_of_ok otherReady (sameOutcome.trans own)]
        exact ⟨rfl, noting _ _ left result, sameSteps⟩

/-- The beginning of a row that shares everything makes no difference, if it is not held up. -/
theorem openRow_alike_nil {row : Record} (ready : dispatcher.noticeFlaw? (.record row) = none)
    (scenario : Scenario) : dispatcher.Alike view Eq [.openRow ⟨true, true⟩ scenario row] [] := by
  have opening := dispatcher.passage_openRow ready ⟨true, true⟩ scenario
  rintro standing _ rfl
  have opens : (dispatcher.passage (.openRow ⟨true, true⟩ scenario row) standing).outcome =
      .ok [] := by
    rw [opening]
  rw [dispatcher.walk_cons_of_ok opens, opening]
  exact ⟨rfl, rfl, stepsSeen_rowStarted view scenario row _⟩

theorem closeRow_alike_nil (scenario : Scenario) (row : Record) :
    dispatcher.Alike view Eq [.closeRow scenario row] [] := by
  rintro standing _ rfl
  exact ⟨rfl, rfl, stepsSeen_rowFinished view scenario row⟩

theorem openRow_alike {row otherRow : Record}
    (notices : dispatcher.noticeFlaw? (.record row) = dispatcher.noticeFlaw? (.record otherRow))
    (sharing : RowSharing) (scenario other : Scenario) {standing otherStanding : Standing}
    (close : related standing otherStanding)
    (entered : related (standing.enterRow sharing) (otherStanding.enterRow sharing)) :
    (dispatcher.passage (.openRow sharing scenario row) standing).Alike view related
      (dispatcher.passage (.openRow sharing other otherRow) otherStanding) := by
  cases noticed : dispatcher.noticeFlaw? (.record row) with
  | some flaw =>
      exact passage_alike_of_obstacle (obstacle?_openRow_of_flaw noticed sharing scenario)
        (obstacle?_openRow_of_flaw (notices.symm.trans noticed) sharing other) close
  | none =>
      rw [dispatcher.passage_openRow noticed,
        dispatcher.passage_openRow (notices.symm.trans noticed)]
      exact ⟨rfl, entered, by rw [stepsSeen_rowStarted, stepsSeen_rowStarted]⟩

/-- Rows are alike if they are held up for the same reason, if there is one, and what comes between
their beginnings and ends is alike. -/
theorem rowMoves_alike {scenario other : Scenario} {before otherBefore : List Move}
    {row otherRow : Record}
    (notices : dispatcher.noticeFlaw? (.record row) = dispatcher.noticeFlaw? (.record otherRow))
    (inside : dispatcher.Alike view Eq (before ++ scenario.steps.map (.step row))
      (otherBefore ++ other.steps.map (.step otherRow))) (sharing : RowSharing) :
    dispatcher.Alike view Eq (scenario.rowMoves sharing before row)
      (other.rowMoves sharing otherBefore otherRow) := by
  have closing : dispatcher.Alike view Eq [.closeRow scenario row]
      [.closeRow other otherRow] := by
    rintro standing _ rfl
    exact ⟨rfl, rfl, (stepsSeen_rowFinished view scenario row).trans
      (stepsSeen_rowFinished view other otherRow).symm⟩
  rintro standing _ rfl
  refine walk_cons_alike (openRow_alike notices sharing scenario other rfl rfl) ?_
  rw [← List.append_assoc, ← List.append_assoc]
  exact inside.append closing

/-- Scenarios whose moves are alike run alike, whoever observes them, if their rows are held up for
the same reasons. -/
theorem runScenario_alike {sharing : RowSharing} {background otherBackground : Option Scenario}
    {scenario other : Scenario}
    (notices : scenario.rows.map (fun row => dispatcher.noticeFlaw? (.record row)) =
      other.rows.map (fun row => dispatcher.noticeFlaw? (.record row)))
    (alike : dispatcher.Alike view Eq (scenario.moves sharing background)
      (other.moves sharing otherBackground)) (state : RunState) :
    let ran := (dispatcher.runScenario sharing background scenario).run state
    let otherRan := (dispatcher.runScenario sharing otherBackground other).run state
    ran.1 = otherRan.1 ∧ ran.2.standing = otherRan.2.standing ∧
      ran.2.observer.journal.stepsSeen view = otherRan.2.observer.journal.stepsSeen view := by
  intro ran otherRan
  by_cases opened : state.observer.listener.HasOpen 0
  · obtain ⟨observer, grown, runs⟩ :=
      dispatcher.exists_run_runScenario sharing background scenario opened
    obtain ⟨otherObserver, otherGrown, otherRuns⟩ :=
      dispatcher.exists_run_runScenario sharing otherBackground other opened
    have same := alike state.standing state.standing rfl
    simp only [ran, otherRan, runs, otherRuns, Standing.standing_observedBy,
      Standing.observer_observedBy]
    refine ⟨same.outcome, same.standing, ?_⟩
    rw [Journal.stepsSeen_of_events view grown, Journal.stepsSeen_of_events view otherGrown,
      same.steps]
  · -- A report that was not told of any feature refuses the first row of either scenario.
    obtain ⟨row, rest, rows⟩ := List.exists_cons_of_ne_nil scenario.rows_ne_nil
    obtain ⟨otherRow, otherRest, otherRows⟩ := List.exists_cons_of_ne_nil other.rows_ne_nil
    have sameNotice : dispatcher.noticeFlaw? (.record row) =
        dispatcher.noticeFlaw? (.record otherRow) := by
      rw [rows, otherRows, List.map_cons, List.map_cons, List.cons.injEq] at notices
      exact notices.1
    cases noticed : dispatcher.noticeFlaw? (.record row) with
    | some flaw =>
        have ends := dispatcher.run_runScenario_of_flaw rows noticed sharing background state
        have otherEnds := dispatcher.run_runScenario_of_flaw otherRows
          (sameNotice.symm.trans noticed) sharing otherBackground state
        simp only [ran, otherRan, ends, otherEnds, and_self]
    | none =>
        obtain ⟨observer, longestLine, grown, runs⟩ :=
          dispatcher.exists_run_runScenario_of_not_open rows noticed sharing background opened
        obtain ⟨otherObserver, otherLine, otherGrown, otherRuns⟩ :=
          dispatcher.exists_run_runScenario_of_not_open otherRows
            (sameNotice.symm.trans noticed) sharing otherBackground opened
        simp only [ran, otherRan, runs, otherRuns, Standing.standing_observedBy,
          Standing.observer_observedBy]
        refine ⟨trivial, trivial, ?_⟩
        rw [Journal.stepsSeen_of_events view grown, Journal.stepsSeen_of_events view otherGrown,
          stepsSeen_rowStarted, stepsSeen_rowStarted]

end Dispatcher

end FeatureRunner
