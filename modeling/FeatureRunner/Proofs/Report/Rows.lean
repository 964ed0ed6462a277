import FeatureRunner.Proofs.Report.Views
import FeatureRunner.Proofs.Run.Listening
import FeatureRunner.Proofs.Run.Turns

/-!
# What rows leave in a report

A row that comes to its end leaves a record of its own with its own steps, followed by whatever
its background leaves: the background begins after the row, while the record of the row is open,
and ends before the first step of the row itself.  Nothing stays open.

Events leave records if a report that is told all of them has just these records in addition, and
the results of all steps that ended.  This file proves that leaving records is kept by putting
events together and by nesting them in a row, and says what the rows of a background and of a
scenario leave.
-/

namespace FeatureRunner

/-- The end of a step as the observer is told it: the context at that time and the result. -/
structure StepEnd where
  context : StepContext
  result : Result

namespace StepEnd

/-- What a report records of the end of a step. -/
def record (ending : StepEnd) : StepRecord :=
  ⟨ending.context.verb, ending.context.text, ending.result⟩

/-- Steps have ended, one after the other: each end is about its step, under the verb of the step
in lower case. -/
def Of (steps : List Step) (ends : List StepEnd) : Prop :=
  List.Forall₂ (fun step ending => ending.context.step = step ∧
    ending.context.verb = step.verb.lower) steps ends

end StepEnd

namespace Callback

def stepEnd? : Callback → Option StepEnd
  | .stepFinished context result => some ⟨context, result⟩
  | _ => none

/-- Whether a callback is about a step. -/
def IsOfStep : Callback → Prop
  | .stepStarted _ => True
  | .stepFinished _ _ => True
  | _ => False

end Callback

namespace Dispatcher

@[simp]
theorem stepEnd?_rowStarted (scenario : Scenario) (row : Record) (longestLine : Value) :
    (rowStarted scenario row longestLine).stepEnd? = none := by
  unfold rowStarted
  split <;> rfl

@[simp]
theorem stepEnd?_rowFinished (scenario : Scenario) (row : Record) :
    (rowFinished scenario row).stepEnd? = none := by
  unfold rowFinished
  split <;> rfl

end Dispatcher

namespace Journal

/-- The ends of steps in a journal, in order. -/
def stepEnds (journal : Journal) : List StepEnd := journal.callbacks.filterMap Callback.stepEnd?

@[simp]
theorem stepEnds_append (first second : Journal) :
    stepEnds (first ++ second) = first.stepEnds ++ second.stepEnds := by
  rw [stepEnds, callbacks_append, List.filterMap_append]
  rfl

theorem stepEnds_callback {callback : Callback} (other : callback.stepEnd? = none) :
    stepEnds [.callback callback] = [] := by
  simp [stepEnds, callbacks, other]

@[simp]
theorem stepEnds_events (journal : Journal) : journal.events.stepEnds = journal.stepEnds := by
  rw [stepEnds, callbacks_events]
  rfl

end Journal

namespace Report

def adding (report : Report) (records : List ScenarioRecord) (results : List Result) : Report :=
  { report with records := report.records ++ records, results := report.results ++ results }

@[simp]
theorem adding_nil (report : Report) : report.adding [] [] = report := by
  simp [adding]

@[simp]
theorem adding_adding (report : Report) (records later : List ScenarioRecord)
    (results others : List Result) :
    (report.adding records results).adding later others =
      report.adding (records ++ later) (results ++ others) := by
  simp [adding]

/-- Only the end of a step makes the results of a report grow. -/
theorem results_told? {report after : Report} {callback : Callback}
    (told : report.told? callback = some after) :
    after.results = report.results ++ callback.stepEnd?.toList.map (·.result) := by
  cases callback with
  | featureStarted | featureFinished | stepStarted =>
      cases told
      exact (List.append_nil _).symm
  | scenarioStarted | backgroundStarted =>
      obtain ⟨_, _, _, rfl⟩ := openRecord?_eq_some_iff.mp told
      exact (List.append_nil _).symm
  | scenarioFinished | backgroundFinished =>
      obtain ⟨_, _, _, rfl⟩ := closeRecord?_eq_some_iff.mp told
      exact (List.append_nil _).symm
  | stepFinished =>
      obtain ⟨_, _, _, rfl⟩ := addStep?_eq_some_iff.mp told
      rfl

/-- The results of a report grow by those of the steps that end. -/
theorem results_toldAll? {report after : Report} {callbacks : List Callback}
    (told : report.toldAll? callbacks = some after) :
    after.results =
      report.results ++ (callbacks.filterMap Callback.stepEnd?).map (·.result) := by
  induction callbacks generalizing report with
  | nil =>
      cases told
      exact (List.append_nil _).symm
  | cons callback rest ih =>
      rw [toldAll?_cons] at told
      obtain ⟨between, here, later⟩ := Option.bind_eq_some_iff.mp told
      rw [ih later, results_told? here, List.append_assoc, List.filterMap_cons]
      cases callback.stepEnd? <;> rfl

theorem told?_rowStarted {report : Report} {position : Nat}
    (counted : report.features.length = position + 1) (scenario : Scenario) (row : Record)
    (longestLine : Value) :
    report.told? (Dispatcher.rowStarted scenario row longestLine) = some { report with
      records := report.records ++ [⟨position, scenario.name, row, scenario.background, []⟩]
      opened := report.records.length :: report.opened } := by
  rcases report with ⟨_ | ⟨feature, earlier⟩, records, opened, results⟩
  · cases counted
  · obtain rfl : earlier.length = position := Nat.succ.inj counted
    unfold Dispatcher.rowStarted
    cases scenario.background <;> rfl

theorem told?_rowFinished {report : Report} {place : Nat} {others : List Nat}
    (opened : report.opened = place :: others) (scenario : Scenario) (row : Record) :
    report.told? (Dispatcher.rowFinished scenario row) =
      some { report with opened := others } := by
  rcases report with ⟨features, records, _, results⟩
  subst opened
  unfold Dispatcher.rowFinished
  split <;> rfl

theorem modify_length_append {α : Type} (first later : List α) (item : α) (change : α → α) :
    (first ++ item :: later).modify first.length change = first ++ change item :: later := by
  simp [List.modify_eq_take_cons_drop]

/-- The steps that end while a record is open are added to this record. -/
theorem toldAll?_steps {callbacks : List Callback}
    (ofSteps : ∀ callback ∈ callbacks, callback.IsOfStep) (features : List Text)
    (first later : List ScenarioRecord) (record : ScenarioRecord) (others : List Nat)
    (results : List Result) :
    toldAll? ⟨features, first ++ record :: later, first.length :: others, results⟩ callbacks =
      some ⟨features,
        first ++ { record with steps := record.steps ++
          (callbacks.filterMap Callback.stepEnd?).map StepEnd.record } :: later,
        first.length :: others,
        results ++ (callbacks.filterMap Callback.stepEnd?).map (·.result)⟩ := by
  induction callbacks generalizing record results with
  | nil => simp
  | cons callback rest ih =>
      obtain ⟨here, others⟩ := List.forall_mem_cons.mp ofSteps
      rw [toldAll?_cons]
      cases callback with
      | stepStarted context => exact ih others record results
      | stepFinished context result =>
          simp only [told?, addStep?, modify_length_append, Option.bind_some]
          rw [ih others]
          simp [Callback.stepEnd?, StepEnd.record]
      | featureStarted => cases here
      | featureFinished => cases here
      | scenarioStarted => cases here
      | scenarioFinished => cases here
      | backgroundStarted => cases here
      | backgroundFinished => cases here

end Report

/-- The record of a row, for a feature at some position, with the steps that ended. -/
def Scenario.recordOf (position : Nat) (row : Scenario × Record) (ends : List StepEnd) :
    ScenarioRecord :=
  ⟨position, row.1.name, row.2, row.1.background, ends.map StepEnd.record⟩

/-- Events leave records, besides the results of the steps that end in them, if every report which
was last told of the feature at some position has a place for all of them, and has these records
and results in addition afterwards and nothing else open. -/
structure Journal.Leaves (events : Journal) (position : Nat) (ends : List StepEnd)
    (records : List ScenarioRecord) : Prop where
  stepEnds_eq : events.stepEnds = ends
  told : ∀ report : Report, report.features.length = position + 1 →
    report.toldAll? events.callbacks = some (report.adding records (ends.map (·.result)))

namespace Journal

variable {position : Nat}

theorem leaves_nil : Leaves [] position [] [] where
  stepEnds_eq := rfl
  told report _ := congrArg some report.adding_nil.symm

theorem Leaves.append {first second : Journal} {ends others : List StepEnd}
    {records later : List ScenarioRecord} (front : first.Leaves position ends records)
    (back : second.Leaves position others later) :
    Leaves (first ++ second) position (ends ++ others) (records ++ later) where
  stepEnds_eq := by rw [stepEnds_append, front.stepEnds_eq, back.stepEnds_eq]
  told := by
    intro report counted
    rw [callbacks_append, Report.toldAll?_append, front.told report counted, Option.bind_some,
      back.told (report.adding records _) counted, Report.adding_adding, List.map_append]

/-- The events of a row leave its record, with its own steps, and then what the events inside it
leave that come ahead of its steps. -/
theorem Leaves.inRow {before steps : Journal} {ends : List StepEnd}
    {records : List ScenarioRecord} (ahead : before.Leaves position ends records)
    (ofSteps : ∀ callback ∈ steps.callbacks, callback.IsOfStep) (scenario : Scenario)
    (row : Record) (longestLine : Value) :
    Leaves (.callback (Dispatcher.rowStarted scenario row longestLine) ::
        (before ++ (steps ++ [.callback (Dispatcher.rowFinished scenario row)])))
      position (ends ++ steps.stepEnds)
      (Scenario.recordOf position (scenario, row) steps.stepEnds :: records) where
  stepEnds_eq := by
    rw [← List.singleton_append]
    simp only [stepEnds_append, stepEnds_callback, Dispatcher.stepEnd?_rowStarted,
      Dispatcher.stepEnd?_rowFinished, ahead.stepEnds_eq, List.nil_append, List.append_nil]
  told := by
    intro report counted
    let fresh : ScenarioRecord := ⟨position, scenario.name, row, scenario.background, []⟩
    let begun : Report := { report with
      records := report.records ++ [fresh]
      opened := report.records.length :: report.opened }
    have begins : report.told? (Dispatcher.rowStarted scenario row longestLine) = some begun :=
      Report.told?_rowStarted counted scenario row longestLine
    have inside := ahead.told begun counted
    -- The record of the row is the one opened last again, with what was left ahead after it.
    have reopened : begun.adding records (ends.map (·.result)) =
        ⟨report.features, report.records ++ fresh :: records,
          report.records.length :: report.opened,
          report.results ++ ends.map (·.result)⟩ := by
      simp [begun, Report.adding]
    have own := Report.toldAll?_steps ofSteps report.features report.records records fresh
      report.opened (report.results ++ ends.map (·.result))
    rw [callbacks_cons, Report.toldAll?_cons, begins, Option.bind_some, callbacks_append,
      Report.toldAll?_append, inside, Option.bind_some, reopened, callbacks_append,
      Report.toldAll?_append, own, Option.bind_some, callbacks_cons, Report.toldAll?_cons,
      Report.told?_rowFinished rfl, Option.bind_some]
    refine (Report.toldAll?_nil _).trans (congrArg some ?_)
    simp [Report.adding, Scenario.recordOf, stepEnds, fresh]

end Journal

namespace Dispatcher

variable {dispatcher : Dispatcher}

theorem map_result_stepEnds_passage {move : Move} {standing : Standing} {results : List Result}
    (returns : (dispatcher.passage move standing).outcome = .ok results) :
    (dispatcher.passage move standing).events.stepEnds.map (·.result) = results := by
  cases move with
  | openRow sharing scenario row =>
      have opening := dispatcher.passage_openRow_of_returns returns
      rw [opening] at returns ⊢
      cases returns
      rw [Journal.stepEnds_callback (stepEnd?_rowStarted ..)]
      rfl
  | closeRow scenario row =>
      cases returns
      rw [passage_closeRow, Journal.stepEnds_callback (stepEnd?_rowFinished ..)]
      rfl
  | step row step =>
      obtain ⟨result, ready, rfl, outcome⟩ := dispatcher.passage_step_returns returns
      rw [dispatcher.events_passage_step ready, Journal.stepEnds, StepCourse.callbacks_events,
        outcome]
      rfl

/-- The results of a walk that returns are those of the steps that ended on it, in order. -/
theorem map_result_stepEnds_walk {moves : List Move} {standing : Standing}
    {results : List Result} (returns : (dispatcher.walk moves standing).outcome = .ok results) :
    (dispatcher.walk moves standing).events.stepEnds.map (·.result) = results := by
  induction moves generalizing standing results with
  | nil =>
      cases returns
      rfl
  | cons move rest ih =>
      obtain ⟨own, others, moved, walked, rfl⟩ := dispatcher.walk_cons_returns returns
      rw [dispatcher.walk_cons_of_ok moved, Journal.stepEnds_append, List.map_append,
        map_result_stepEnds_passage moved, ih walked]

/-- A walk through steps that returns tells of nothing but steps, and of the end of each. -/
theorem walk_steps_returns {row : Record} {steps : List Step} {standing : Standing}
    {results : List Result}
    (returns : (dispatcher.walk (steps.map (.step row)) standing).outcome = .ok results) :
    StepEnd.Of steps (dispatcher.walk (steps.map (.step row)) standing).events.stepEnds ∧
      ∀ callback ∈ (dispatcher.walk (steps.map (.step row)) standing).events.callbacks,
        callback.IsOfStep := by
  induction steps generalizing standing results with
  | nil => exact ⟨.nil, fun _ among => absurd among List.not_mem_nil⟩
  | cons step rest ih =>
      rw [List.map_cons] at returns ⊢
      obtain ⟨own, others, moved, walked, rfl⟩ := dispatcher.walk_cons_returns returns
      obtain ⟨ended, ofSteps⟩ := ih walked
      obtain ⟨result, ready, -, outcome⟩ := dispatcher.passage_step_returns moved
      have belongs := dispatcher.stepCourse_belongsTo row step standing
      have told := (dispatcher.stepCourse row step standing).callbacks_events
      rw [outcome] at told
      rw [dispatcher.walk_cons_of_ok moved, Journal.stepEnds_append, Journal.callbacks_append,
        dispatcher.events_passage_step ready, Journal.stepEnds, told]
      constructor
      · exact .cons ⟨belongs.ended_step, belongs.ended_verb⟩ ended
      · simp only [List.cons_append, List.nil_append, List.forall_mem_cons]
        exact ⟨trivial, trivial, ofSteps⟩

theorem walk_rowMoves_returns {sharing : RowSharing} {scenario : Scenario} {before : List Move}
    {row : Record} {standing : Standing} {results : List Result}
    (returns : (dispatcher.walk (scenario.rowMoves sharing before row) standing).outcome =
      .ok results) :
    ∃ earlier own longestLine,
      (dispatcher.walk before (standing.enterRow sharing)).outcome = .ok earlier ∧
      (dispatcher.walk (scenario.steps.map (.step row))
        (dispatcher.walk before (standing.enterRow sharing)).standing).outcome = .ok own ∧
      (dispatcher.walk (scenario.rowMoves sharing before row) standing).events =
        .callback (rowStarted scenario row longestLine) ::
          ((dispatcher.walk before (standing.enterRow sharing)).events ++
            ((dispatcher.walk (scenario.steps.map (.step row))
              (dispatcher.walk before (standing.enterRow sharing)).standing).events ++
                [.callback (rowFinished scenario row)])) := by
  rw [Scenario.rowMoves] at returns ⊢
  obtain ⟨_, inside, opened, walked, -⟩ := dispatcher.walk_cons_returns returns
  have opening := dispatcher.passage_openRow_of_returns opened
  rw [opening] at walked
  obtain ⟨earlier, rest, ahead, walkedOn, -⟩ := dispatcher.walk_append_returns walked
  obtain ⟨own, _, steps, -, -⟩ := dispatcher.walk_append_returns walkedOn
  refine ⟨earlier, own, (Record.get? (standing.enterRow sharing).scenarioStash
    "longest_step_line".toList).getD .null, ahead, steps, ?_⟩
  rw [dispatcher.walk_cons_of_ok opened, opening, dispatcher.walk_append_of_ok ahead,
    dispatcher.walk_append_of_ok steps]
  rfl

section Leaving

variable {position : Nat}

/-- What a row leaves that returns: its record with its own steps, and what is left ahead of
them. -/
theorem exists_leaves_row {sharing : RowSharing} {scenario : Scenario} {before : List Move}
    {row : Record} {standing : Standing} {results : List Result} {ends : List StepEnd}
    {records : List ScenarioRecord}
    (returns : (dispatcher.walk (scenario.rowMoves sharing before row) standing).outcome =
      .ok results)
    (ahead : (dispatcher.walk before (standing.enterRow sharing)).events.Leaves position ends
      records) :
    ∃ own, StepEnd.Of scenario.steps own ∧
      (dispatcher.walk (scenario.rowMoves sharing before row) standing).events.Leaves position
        (ends ++ own) (Scenario.recordOf position (scenario, row) own :: records) := by
  obtain ⟨_, _, longestLine, -, walked, events⟩ := walk_rowMoves_returns returns
  obtain ⟨ended, ofSteps⟩ := walk_steps_returns walked
  rw [events]
  exact ⟨_, ended, ahead.inRow ofSteps scenario row longestLine⟩

/-- What several parts leave, if they return and it is known what each of them leaves. -/
theorem exists_leaves_flatMap {Part Left : Type} {movesOf : Part → List Move}
    {Leave : Part → Left → Prop} {endsOf : Left → List StepEnd}
    {recordsOf : Part → Left → List ScenarioRecord}
    (each : ∀ part (standing : Standing) results,
      (dispatcher.walk (movesOf part) standing).outcome = .ok results →
        ∃ left, Leave part left ∧ (dispatcher.walk (movesOf part) standing).events.Leaves position
          (endsOf left) (recordsOf part left))
    {parts : List Part} {standing : Standing} {results : List Result}
    (returns : (dispatcher.walk (parts.flatMap movesOf) standing).outcome = .ok results) :
    ∃ left, List.Forall₂ Leave parts left ∧
      (dispatcher.walk (parts.flatMap movesOf) standing).events.Leaves position
        (left.flatMap endsOf) (List.zipWith recordsOf parts left).flatten := by
  induction parts generalizing standing results with
  | nil => exact ⟨[], .nil, Journal.leaves_nil⟩
  | cons part rest ih =>
      rw [List.flatMap_cons] at returns ⊢
      obtain ⟨own, others, walked, walkedOn, rfl⟩ := dispatcher.walk_append_returns returns
      obtain ⟨left, leaves, here⟩ := each part standing own walked
      obtain ⟨later, eachLater, there⟩ := ih walkedOn
      refine ⟨left :: later, .cons leaves eachLater, ?_⟩
      rw [dispatcher.walk_append_of_ok walked, List.flatMap_cons, List.zipWith_cons_cons,
        List.flatten_cons]
      exact here.append there

end Leaving

end Dispatcher

end FeatureRunner
