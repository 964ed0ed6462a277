import FeatureRunner.Registry
import FeatureRunner.Run.Observer

/-!
# Dispatching a step

A step whose context is ready is dispatched: skipped if an earlier step of its row did not pass,
reported as undefined if no definition matches its text, and otherwise handed to the action of
the first definition that matches.  The observer is told of every step, whether it runs or not.

What an action raises becomes part of the step's result, unless it asks to leave the whole run.
A failure that comes after the action has already written its plan cannot be recorded any more,
and ends the run.  So does a failure whose text cannot be made.
-/

namespace FeatureRunner

/-- How steps are run: whether actions get the stash of their step as a second argument, and whether
somebody listens to notices of the level debug, so that they have to be put into words. -/
structure RunMode where
  extraFields : Bool
  debugging : Bool
deriving DecidableEq, Repr

/-- Unless something else is said, nobody listens to notices of the level debug. -/
instance : Coe Bool RunMode := ⟨fun extraFields => ⟨extraFields, false⟩⟩

/-- What steps are dispatched with: the definitions, and how the steps are run. -/
structure Dispatcher where
  registry : Registry
  mode : RunMode

namespace Dispatcher

abbrev extraFields (dispatcher : Dispatcher) : Bool := dispatcher.mode.extraFields

/-- What keeps a notice of the level debug that tells of a value from being put into words, if this
has to be done. -/
def noticeFlaw? (dispatcher : Dispatcher) (value : Value) : Option ShowFlaw :=
  if dispatcher.mode.debugging then value.showFlaw? Value.showLimit else none

end Dispatcher

/-- What changes during a dispatch. -/
structure DispatchState where
  context : StepContext
  observer : Observer

/-- A computation that may end the run, and keeps the changes it made until then. -/
abbrev DispatchM := ExceptT Abort (StateM DispatchState)

namespace DispatchM

def changeContext (change : StepContext → StepContext) : DispatchM Unit :=
  modify fun state => { state with context := change state.context }

def tell (callback : StepContext → Callback) : DispatchM Unit := fun state =>
  let told := state.observer.tell (callback state.context)
  (told.1, { state with observer := told.2 })

def give (level : NoticeLevel) (message : Text) : DispatchM Unit :=
  modify fun state => { state with
    observer := state.observer.give level "cukerun.core.dispatcher" message }

/-- Changes the recorder of the context; an assertion that comes too late ends the run. -/
def record (change : Recorder → Option Recorder) : DispatchM Unit := do
  let context := (← get).context
  match change (context.recorder.getD .empty) with
  | some changed => changeContext fun context => { context with recorder := some changed }
  | none => throw .closedRecorder

/-- Ends the step with a result and tells the observer. -/
def conclude (result : Result) : DispatchM Result := do
  tell fun context => .stepFinished context result
  return result

end DispatchM

namespace Dispatcher

open DispatchM

/-- Reports a step that never runs with the result it gets. -/
def skipWith (outcome : Except UnknownStatus Result) : DispatchM Result := do
  tell .stepStarted
  match outcome with
  | .ok result => conclude result
  | .error unknown => throw (.unknownStatus unknown)

def skipStep (status : Status) (reason : Text) : DispatchM Result :=
  skipWith (.ok (Result.skipped status reason))

/-- Reports a step that never runs, with a status given by a value. -/
def skipStepByValue (given : Value) (reason : Text) : DispatchM Result :=
  skipWith (Result.skippedOfValue given reason)

def failStep (reason : Text) : DispatchM Result := do
  changeContext fun context => { context with recorder := some .empty }
  tell .stepStarted
  let context := (← get).context
  record (·.ok? false
    ("Preparing step: ".toList ++ context.verb ++ [' '] ++ context.text))
  record fun recorder => some (recorder.diag reason)
  record fun recorder => some recorder.finish
  conclude ((← get).context.recorder.getD .empty).result

/-- Runs an action on the context: what it raises, if anything. -/
def invoke (dispatcher : Dispatcher) (action : Action) : DispatchM (Option Failure) := do
  let state ← get
  let (raised, after) := action.call dispatcher.extraFields ⟨state.context, []⟩
  let observer := after.notes.foldl (fun observer entry =>
    observer.enter (.note entry.1 entry.2)) state.observer
  set (σ := DispatchState)
    ⟨after.context, observer.enter (.invocation state.context after.context)⟩
  return raised

/-- Gives the notice about an error that an action raised, which shows its detail. -/
def noticeError (dispatcher : Dispatcher) (failure : Failure) : DispatchM Unit := do
  match failure.detail.bind dispatcher.noticeFlaw? with
  | some flaw => throw (.exit (.ofShowFlaw flaw))
  | none =>
    let context := (← get).context
    give .debug ("Step ".toList ++ context.verb ++ [' '] ++ context.text ++
      " raised ".toList ++ failure.literal)

/-- Writes down what an action raised.  The text of a pending step is asked for ahead of the
recorder, and the trace of an error after the check that it fails. -/
def recordFailure (dispatcher : Dispatcher) (failure : Failure) : DispatchM Unit :=
  match failure.role with
  | .pending => do
    let context := (← get).context
    match failure.wording with
    | .ok reason => record (·.todo? ("Step is pending: ".toList ++ context.text) reason)
    | .error raised => throw (.exit raised)
  | .error => do
    dispatcher.noticeError failure
    record (·.ok? false "Step ran without raising".toList)
    match failure.trace with
    | .ok trace => record fun recorder => some (recorder.diag (Text.stripRight trace))
    | .error raised => throw (.exit raised)
  | .exit => throw (.exit failure)

/-- Runs the action of a definition that matches. -/
def runDefinition (dispatcher : Dispatcher) (definition : StepDefinition)
    (found : PatternMatch) : DispatchM Result := do
  changeContext fun context => { context with
    recorder := Recorder.empty.ok? true ("Starting to execute step: ".toList ++ context.text) }
  tell .stepStarted
  changeContext fun context => { context with matched := found.groups }
  let context := (← get).context
  give .debug ("Dispatching ".toList ++ context.verb ++ [' '] ++ context.text ++
    " to /".toList ++ definition.pattern.source ++ ['/'])
  match ← dispatcher.invoke definition.action with
  | none => pure ()
  | some failure => dispatcher.recordFailure failure
  record fun recorder => some recorder.finish
  conclude ((← get).context.recorder.getD .empty).result

/-- The reason for skipping the steps after one that did not pass. -/
def shortCircuitReason : Text := "Short-circuited from previous tests".toList

def dispatch (dispatcher : Dispatcher) (shortCircuit : Bool) : DispatchM Result := do
  if shortCircuit then skipStep .pending shortCircuitReason
  else
    let context := (← get).context
    match dispatcher.registry.find context.verb context.text with
    | none =>
      let reason := "No matching step definition for: ".toList ++ context.verb ++ [' '] ++
        context.text
      give .warning reason
      skipStep .undefined reason
    | some (definition, found) => dispatcher.runDefinition definition found

end Dispatcher

end FeatureRunner
