import FeatureRunner.Run.Dispatch
import FeatureRunner.Run.ShortCircuit
import FeatureRunner.TagSpec
import FeatureRunner.Template

/-!
# Executing features

A feature is executed scenario by scenario, a scenario row by row, and a row step by step, the
steps of the background first.  The feature stash lives for the whole feature, the scenario stash
and the short circuit for one row together with its background.  Once a step of a row has not
passed, the short circuit is armed and the remaining steps of the row are skipped.

A row is told in a notice before it begins, and a step is made ready before anything else is looked
at, the short circuit included: its text is filled in, and its data are copied.  If the notice has
to be put into words and the row cannot be shown, if the row holds a value for the text that cannot
be shown, or if the data are too deep, the run ends there, and the observer is not told of the row
or of the step.
-/

namespace FeatureRunner

/-- What changes during an execution. -/
structure RunState where
  observer : Observer
  featureStash : Record
  scenarioStash : Record
  shortCircuit : ShortCircuit

/-- A computation that may end the run, and keeps the changes it made until then. -/
abbrev RunM := ExceptT Abort (StateM RunState)

/-- Which scenarios of a feature to execute. -/
inductive Selection where
  | everything
  | tagged (spec : TagSpec)
  | chosen (choose : List Scenario → List Scenario)

/-- The scenarios of a feature that a selection leaves.  Scenarios inherit the tags of their
feature. -/
def Selection.apply (selection : Selection) (feature : Feature) : List Scenario :=
  match selection with
  | everything => feature.scenarios
  | tagged spec => (spec.withFeatureTags feature.tags).filter feature.scenarios
  | chosen choose => choose feature.scenarios

/-- What the rows of a scenario share with what was there before: the scenario stash, and the
short circuit. -/
structure RowSharing where
  stash : Bool
  shortCircuit : Bool

namespace RunState

def arm (state : RunState) : RunState := { state with shortCircuit := state.shortCircuit.arm }

def enterRow (sharing : RowSharing) (state : RunState) : RunState :=
  { state with
    scenarioStash := if sharing.stash then state.scenarioStash else []
    shortCircuit := if sharing.shortCircuit then state.shortCircuit else .idle }

end RunState

namespace RunM

def tell (callback : Callback) : RunM Unit := fun state =>
  let told := state.observer.tell callback
  (told.1, { state with observer := told.2 })

def give (level : NoticeLevel) (message : Text) : RunM Unit :=
  modify fun state => { state with
    observer := state.observer.give level "cukerun.core.executor" message }

/-- Runs a dispatch in a context, and takes over the stashes that it leaves. -/
def dispatching (context : StepContext) (dispatch : DispatchM Result) : RunM Result :=
  fun state =>
    let dispatched := dispatch.run ⟨context, state.observer⟩
    let stash := dispatched.2.context.stash
    (dispatched.1, { state with
      observer := dispatched.2.observer
      featureStash := stash.feature
      scenarioStash := stash.scenario })

end RunM

namespace Dispatcher

open RunM

/-- The failure of copying data that are too deep. -/
def tooDeepToCopy : Failure :=
  .ofText "RecursionError" "maximum recursion depth exceeded while calling a Python object"

/-- The context of a step with its text, which has a copy of the data. -/
def contextOf (step : Step) (text : Text) : RunM StepContext := do
  let state ← get
  if step.isCopyable then return .build step text state.featureStash state.scenarioStash
  else throw (.exit tooDeepToCopy)

/-- Runs one step for a row.  A step with a placeholder that the row has no value for fails, unless
it is skipped anyway. -/
def runStep (dispatcher : Dispatcher) (row : Record) (step : Step) : RunM Result := do
  match Template.expand step.text row with
  | .ok text => do
    let context ← contextOf step text
    let state ← get
    dispatching context (dispatcher.dispatch state.shortCircuit.armed)
  | .error ⟨_, _, .unshown flaw⟩ => throw (.exit (.ofShowFlaw flaw))
  | .error ⟨name, text, .missing⟩ => do
    let reason := UnfilledPlaceholder.message ⟨name, text, .missing⟩
    give .warning reason
    let context ← contextOf step step.text
    let state ← get
    dispatching context
      (if state.shortCircuit.armed then dispatcher.dispatch true else failStep reason)

def runSteps (dispatcher : Dispatcher) (row : Record) : List Step → RunM (List Result)
  | [] => return []
  | step :: rest => do
    let result ← dispatcher.runStep row step
    if !result.passed then modify RunState.arm
    let others ← runSteps dispatcher row rest
    return result :: others

def rowStarted (scenario : Scenario) (row : Record) (longestLine : Value) : Callback :=
  if scenario.background then .backgroundStarted scenario row longestLine
  else .scenarioStarted scenario row longestLine

def rowFinished (scenario : Scenario) (row : Record) : Callback :=
  if scenario.background then .backgroundFinished scenario row
  else .scenarioFinished scenario row

/-- Gives the notice about a row of a scenario, which shows the row. -/
def noticeRow (dispatcher : Dispatcher) (scenario : Scenario) (row : Record) : RunM Unit :=
  match dispatcher.noticeFlaw? (.record row) with
  | some flaw => throw (.exit (.ofShowFlaw flaw))
  | none =>
    give .debug ("Scenario ".toList ++ scenario.name.quoted ++ " row ".toList ++
      (Value.record row).literal)

/-- Runs one row of a scenario; `before` runs after the row has begun and ahead of its own
steps. -/
def runRow (dispatcher : Dispatcher) (sharing : RowSharing) (scenario : Scenario)
    (before : RunM (List Result)) (row : Record) : RunM (List Result) := do
  dispatcher.noticeRow scenario row
  modify (RunState.enterRow sharing)
  let state ← get
  tell (rowStarted scenario row
    ((Record.get? state.scenarioStash "longest_step_line".toList).getD .null))
  let earlier ← before
  let own ← dispatcher.runSteps row scenario.steps
  tell (rowFinished scenario row)
  return earlier ++ own

/-- Runs the given rows of a scenario in order. -/
def runRows (dispatcher : Dispatcher) (sharing : RowSharing) (scenario : Scenario)
    (before : RunM (List Result)) : List Record → RunM (List Result)
  | [] => return []
  | row :: rest => do
    let first ← dispatcher.runRow sharing scenario before row
    let others ← runRows dispatcher sharing scenario before rest
    return first ++ others

/-- Replays a background, if there is one.  It shares the stash and the short circuit of the row
that it runs in front of. -/
def runBackground (dispatcher : Dispatcher) : Option Scenario → RunM (List Result)
  | none => return []
  | some background => dispatcher.runRows ⟨true, true⟩ background (pure []) background.rows

/-- Runs every row of a scenario, each after a replay of the background. -/
def runScenario (dispatcher : Dispatcher) (sharing : RowSharing)
    (background : Option Scenario) (scenario : Scenario) : RunM (List Result) :=
  dispatcher.runRows sharing scenario (dispatcher.runBackground background) scenario.rows

/-- Runs scenarios in order, each row with a stash and a short circuit of its own. -/
def runScenarios (dispatcher : Dispatcher) (background : Option Scenario) :
    List Scenario → RunM (List Result)
  | [] => return []
  | scenario :: rest => do
    let first ← dispatcher.runScenario ⟨false, false⟩ background scenario
    let others ← runScenarios dispatcher background rest
    return first ++ others

/-- Executes the selected scenarios of a feature. -/
def runFeature (dispatcher : Dispatcher) (selection : Selection) (feature : Feature) :
    RunM (List Result) := do
  modify fun state => { state with featureStash := [] }
  tell (.featureStarted feature)
  let scenarios := selection.apply feature
  give .info ("Running feature ".toList ++ feature.name.quoted ++ ": ".toList ++
    Text.ofNat scenarios.length ++ " of ".toList ++ Text.ofNat feature.scenarios.length ++
    " scenarios".toList)
  let results ← dispatcher.runScenarios feature.background scenarios
  tell (.featureFinished feature)
  return results

/-- Registers entries, with a notice for every definition that is added: the dispatcher
afterwards, the observer, and the fault that ended the registration early. -/
def addSteps (dispatcher : Dispatcher) (observer : Observer) (entries : List StepEntry) :
    Dispatcher × Observer × Option NotCallable :=
  let (registry, added, fault) := dispatcher.registry.addAll entries
  let observer := added.foldl (fun observer definition =>
    observer.give .debug "cukerun.core.registry" ("Registered step ".toList ++
      definition.verb ++ " /".toList ++ definition.pattern.source ++ ['/'])) observer
  ({ dispatcher with registry := registry }, observer, fault)

end Dispatcher

end FeatureRunner
