import FeatureRunner.Feature.Basic
import FeatureRunner.Recorder
import FeatureRunner.Text.Case

/-!
# Step contexts

What an action sees of the run and may change: the step, its verb in lower case, its text with
the placeholders filled in, a copy of its data, the groups of the match, the recorder of its
assertions, and three stashes of different lifetimes.
-/

namespace FeatureRunner

/-- Storage shared between actions: for a whole feature, for one row of a scenario together
with its background, and for a single step. -/
structure Stash where
  feature : Record
  scenario : Record
  step : Record

namespace Step

/-- How many lists and records may be open at once in data that are copied.  The interpreter takes a
thousand calls inside one another, and copying takes two of them for each level; this is what is
left of them if the run of the feature was started with seven calls open. -/
def copyLimit : Nat := 492

/-- Whether the data of a step can be copied.  Data without parts are shared instead. -/
def isCopyable (step : Step) : Bool := !step.data.isContainer || step.data.nesting ≤ copyLimit

end Step

/-- What the action of a step works on. -/
structure StepContext where
  step : Step
  verb : Text
  text : Text
  data : Value
  stash : Stash
  matched : List (Option Text)
  recorder : Option Recorder

namespace StepContext

/-- The context of a step whose data can be copied, as it is before the step. -/
def build (step : Step) (text : Text) (featureStash scenarioStash : Record) : StepContext :=
  { step := step
    verb := step.verb.lower
    text := text
    data := step.data
    stash := ⟨featureStash, scenarioStash, []⟩
    matched := []
    recorder := none }

/-- The message about an assertion made while the step is not running. -/
def idleMessage : Text :=
  "Assertions can only be recorded while the step is being dispatched".toList

end StepContext

end FeatureRunner
