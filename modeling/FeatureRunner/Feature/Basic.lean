import FeatureRunner.Value.Basic

/-!
# Features

A feature is a list of scenarios, possibly with a background that runs before each of them.  A
scenario is a list of steps; if it has data rows, it is an outline that runs once for each row.
-/

namespace FeatureRunner

/-- A step: a verb and a text, possibly with data of its own and a line number. -/
structure Step where
  verb : Text
  text : Text
  data : Value
  line : Value

/-- A list of steps under a name. -/
structure Scenario where
  name : Text
  steps : List Step
  data : List Record
  background : Bool
  tags : List Text

/-- A list of scenarios under a name. -/
structure Feature where
  name : Text
  scenarios : List Scenario
  background : Option Scenario
  tags : List Text

/-- The rows that a scenario runs for: its data rows, or one empty row if it has none. -/
def Scenario.rows (scenario : Scenario) : List Record :=
  if scenario.data = [] then [[]] else scenario.data

end FeatureRunner
