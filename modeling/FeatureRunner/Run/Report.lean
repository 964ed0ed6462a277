import FeatureRunner.Run.Callback
import FeatureRunner.Value.Display

/-!
# Reports

A report collects what an observer is told: the features, a record of every scenario and
background with its steps, and the results of all steps in the order in which they ended.
Records that have begun and not ended are open; a step belongs to the record opened last.  A
report that is told of a scenario before any feature, or of a step while no record is open, has
nowhere to put it.
-/

namespace FeatureRunner

/-- The record of a step. -/
structure StepRecord where
  verb : Text
  text : Text
  result : Result
deriving DecidableEq, Repr

/-- The record of one row of a scenario or background, and the position of its feature. -/
structure ScenarioRecord where
  feature : Nat
  name : Text
  row : Record
  background : Bool
  steps : List StepRecord

/-- Everything an observer was told.  The open records are given by their positions, the one
opened last in front. -/
structure Report where
  features : List Text
  records : List ScenarioRecord
  opened : List Nat
  results : List Result

/-- The status of a record: the worst of its steps. -/
def ScenarioRecord.status (record : ScenarioRecord) : Status :=
  .worst (record.steps.map (·.result.status))

namespace Report

def empty : Report := ⟨[], [], [], []⟩

def openRecord? (report : Report) (scenario : Scenario) (row : Record) (background : Bool) :
    Option Report :=
  match report.features with
  | [] => none
  | _ :: earlier =>
    some { report with
      records := report.records ++ [⟨earlier.length, scenario.name, row, background, []⟩]
      opened := report.records.length :: report.opened }

def closeRecord? (report : Report) : Option Report :=
  match report.opened with
  | [] => none
  | _ :: others => some { report with opened := others }

def addStep? (report : Report) (step : StepRecord) : Option Report :=
  match report.opened with
  | [] => none
  | place :: _ =>
    some { report with
      records := report.records.modify place fun record =>
        { record with steps := record.steps ++ [step] }
      results := report.results ++ [step.result] }

/-- The report after a callback, if there is a place for what it tells. -/
def told? (report : Report) : Callback → Option Report
  | .featureStarted feature => some { report with features := report.features ++ [feature.name] }
  | .featureFinished _ => some report
  | .scenarioStarted scenario row _ => report.openRecord? scenario row false
  | .scenarioFinished _ _ => report.closeRecord?
  | .backgroundStarted scenario row _ => report.openRecord? scenario row true
  | .backgroundFinished _ _ => report.closeRecord?
  | .stepStarted _ => some report
  | .stepFinished context result => report.addStep? ⟨context.verb, context.text, result⟩

def status (report : Report) : Status := .worst (report.results.map Result.status)

/-- How many steps ended with each status, in the order in which the statuses first came. -/
def summary (report : Report) : List (Status × Nat) :=
  (report.results.map Result.status).eraseDups.map fun status =>
    (status, report.results.countP fun result => result.status = status)

def stepValue (step : StepRecord) : Value :=
  .record [
    ("verb".toList, .text step.verb),
    ("text".toList, .text step.text),
    ("status".toList, .text step.result.status.word),
    ("output".toList, .text step.result.output)]

/-- A record as a value; the values of its row become texts.  Those that come from a feature file
can all be shown, since reading the file leaves less room for them. -/
def recordValue (record : ScenarioRecord) : Value :=
  .record [
    ("name".toList, .text record.name),
    ("row".toList, .record (record.row.map fun field => (field.1, .text field.2.display))),
    ("background".toList, .bool record.background),
    ("status".toList, .text record.status.word),
    ("steps".toList, .list (record.steps.map stepValue))]

def featureValue (report : Report) (name : Text) (position : Nat) : Value :=
  let own := report.records.filter fun record => record.feature = position
  .record [
    ("name".toList, .text name),
    ("scenarios".toList, .list (own.map recordValue))]

/-- A report as a value, under the name of its run. -/
def toValue (report : Report) (runId : Text) : Value :=
  .record [
    ("run_id".toList, .text runId),
    ("status".toList, .text report.status.word),
    ("summary".toList,
      .record (report.summary.map fun entry => (entry.1.word, .ofNat entry.2))),
    ("features".toList,
      .list (report.features.zipIdx.map fun entry => report.featureValue entry.1 entry.2))]

end Report

end FeatureRunner
