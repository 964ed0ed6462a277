import FeatureRunner.Action.Context
import FeatureRunner.Value.Failure

/-!
# Action programs

An action is a program over a step context: a tree whose nodes are operations and whose branches
are the possible replies.  An operation that fails hands its failure to the program, which may go
on; a failure that the program itself ends with is what the action raises.

The second argument of an action, when it gets one, is another name for the step's own stash.

An action reads and writes what its context holds.  The text and the data of the context it can also
set anew; all other parts stay what they are, so that the contents of a stash may change but no
other stash comes to stand in its place.
-/

namespace FeatureRunner

/-- The stashes that an action can name. -/
inductive StashScope where
  | feature
  | scenario
  | step
  | extra
deriving DecidableEq, Repr

/-- The operations of an action on its context. -/
inductive ActionOp where
  | ok (passed : Bool) (name : Text)
  | todo (name reason : Text)
  | diag (message : Text)
  | finish
  | verb
  | text
  | setText (content : Text)
  | data
  | setData (value : Value)
  | matched
  | stepText
  | stepLine
  | argumentCount
  | stash (scope : StashScope)
  | remember (scope : StashScope) (key : Text) (value : Value)
  | forget (scope : StashScope) (key : Text)
  | note (what : Text) (value : Value)

/-- A program over a step context. -/
inductive ActionProgram where
  | done
  | fail (failure : Failure)
  | perform (op : ActionOp) (next : Except Failure Value → ActionProgram)

/-- How many arguments an action takes: the context, or the context and the step's stash. -/
inductive Arity where
  | one
  | two
  | either
deriving DecidableEq, Repr

/-- An action of a step definition. -/
structure Action where
  arity : Arity
  program : ActionProgram

/-- What an action changes while it runs: its context, and the list of what it noted. -/
structure ActionState where
  context : StepContext
  notes : List (Text × Value)

namespace ActionState

/-- Applies an assertion to the recorder of the context. -/
def assert (state : ActionState) (reply : Value) (change : Recorder → Option Recorder) :
    Except Failure Value × ActionState :=
  match state.context.recorder with
  | none => (.error (.ofMessage "RuntimeError" StepContext.idleMessage), state)
  | some recorder =>
    match change recorder with
    | none => (.error (.ofMessage "RuntimeError" Recorder.closedMessage), state)
    | some changed =>
      (.ok reply, { state with context := { state.context with recorder := some changed } })

/-- The failure of naming the second argument of an action that got only one. -/
def noExtra : Failure := .ofText "RuntimeError" "no extra argument"

def stash (extra : Bool) (state : ActionState) : StashScope → Except Failure Record
  | .feature => .ok state.context.stash.feature
  | .scenario => .ok state.context.stash.scenario
  | .step => .ok state.context.stash.step
  | .extra => if extra then .ok state.context.stash.step else .error noExtra

def Stash.replace (stash : Stash) (contents : Record) : StashScope → Stash
  | .feature => { stash with feature := contents }
  | .scenario => { stash with scenario := contents }
  | .step => { stash with step := contents }
  | .extra => { stash with step := contents }

/-- Changes the contents of a stash, unless this fails. -/
def changeStash (extra : Bool) (state : ActionState) (scope : StashScope)
    (change : Record → Except Failure Record) : Except Failure Value × ActionState :=
  match (state.stash extra scope).bind change with
  | .error failure => (.error failure, state)
  | .ok contents =>
    let stash := Stash.replace state.context.stash contents scope
    (.ok .null, { state with context := { state.context with stash := stash } })

end ActionState

namespace ActionOp

/-- Performs an operation: the reply, and the state afterwards. -/
def run (extra : Bool) (state : ActionState) : ActionOp → Except Failure Value × ActionState
  | ok passed name => state.assert (.bool passed) (·.ok? passed name)
  | todo name reason => state.assert .null (·.todo? name reason)
  | diag message => state.assert .null fun recorder => some (recorder.diag message)
  | finish => state.assert .null fun recorder => some recorder.finish
  | verb => (.ok (.text state.context.verb), state)
  | text => (.ok (.text state.context.text), state)
  | setText content =>
    (.ok .null, { state with context := { state.context with text := content } })
  | data => (.ok state.context.data, state)
  | setData value => (.ok .null, { state with context := { state.context with data := value } })
  | matched => (.ok (.list (state.context.matched.map Value.ofText?)), state)
  | stepText => (.ok (.text state.context.step.text), state)
  | stepLine => (.ok state.context.step.line, state)
  | argumentCount => (.ok (.int (if extra then 2 else 1)), state)
  | stash scope => ((state.stash extra scope).map .record, state)
  | remember scope key value =>
    state.changeStash extra scope fun contents => .ok (contents.put key value)
  | forget scope key =>
    state.changeStash extra scope fun contents =>
      if contents.has key then .ok (contents.drop key) else .error (.missingKey key)
  | note what value => (.ok .null, { state with notes := state.notes ++ [(what, value)] })

end ActionOp

namespace ActionProgram

/-- Runs a program: the failure it ends with, if any, and the state afterwards. -/
def run (extra : Bool) : ActionProgram → ActionState → Option Failure × ActionState
  | done, state => (none, state)
  | fail failure, state => (some failure, state)
  | perform op next, state =>
    let replied := op.run extra state
    run extra (next replied.1) replied.2

/-- Performs an operation and goes on with its value; a failure ends the program. -/
def andThen (op : ActionOp) (next : Value → ActionProgram) : ActionProgram :=
  perform op fun
    | .ok value => next value
    | .error failure => fail failure

/-- Goes on with the value of a computation; a failure ends the program. -/
def attempt {α : Type} (outcome : Except Failure α) (next : α → ActionProgram) :
    ActionProgram :=
  match outcome with
  | .ok value => next value
  | .error failure => fail failure

end ActionProgram

namespace Action

/-- The failure of calling an action with a number of arguments that it does not take. -/
def wrongArguments? (action : Action) (extra : Bool) : Option Failure :=
  match action.arity, extra with
  | .one, true => some (.ofText "TypeError"
      "action() takes 1 positional argument but 2 were given")
  | .two, false => some (.ofText "TypeError"
      "action() missing 1 required positional argument: 'stash'")
  | _, _ => none

def call (action : Action) (extra : Bool) (state : ActionState) :
    Option Failure × ActionState :=
  match action.wrongArguments? extra with
  | some failure => (some failure, state)
  | none => action.program.run extra state

end Action

end FeatureRunner
