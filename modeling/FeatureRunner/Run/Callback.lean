import FeatureRunner.Action.Context
import FeatureRunner.Run.Notice

/-!
# Callbacks and the journal

While a run walks a feature it tells an observer about every feature, scenario, background and
step that begins or ends.  The journal is the list of everything that happened, in order: the
callbacks, the notices, the actions invoked, and what they noted.
-/

namespace FeatureRunner

/-- What an observer is told.  The value told when a scenario or background begins is the one
that its stash holds for the longest step line. -/
inductive Callback where
  | featureStarted (feature : Feature)
  | featureFinished (feature : Feature)
  | scenarioStarted (scenario : Scenario) (row : Record) (longestLine : Value)
  | scenarioFinished (scenario : Scenario) (row : Record)
  | backgroundStarted (scenario : Scenario) (row : Record) (longestLine : Value)
  | backgroundFinished (scenario : Scenario) (row : Record)
  | stepStarted (context : StepContext)
  | stepFinished (context : StepContext) (result : Result)

/-- Something that happened during a run.  An invocation records the context at the start of an
action and the one that it left. -/
inductive JournalEntry where
  | callback (callback : Callback)
  | notice (notice : Notice)
  | invocation (before after : StepContext)
  | note (what : Text) (value : Value)

abbrev Journal := List JournalEntry

namespace Journal

def callbacks (journal : Journal) : List Callback :=
  journal.filterMap fun
    | .callback callback => some callback
    | _ => none

def notices (journal : Journal) : List Notice :=
  journal.filterMap fun
    | .notice notice => some notice
    | _ => none

def notes (journal : Journal) : List (Text × Value) :=
  journal.filterMap fun
    | .note what value => some (what, value)
    | _ => none

/-- The invocations of actions: the context before and after each. -/
def invocations (journal : Journal) : List (StepContext × StepContext) :=
  journal.filterMap fun
    | .invocation before after => some (before, after)
    | _ => none

end Journal

end FeatureRunner
