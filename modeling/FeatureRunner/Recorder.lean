import FeatureRunner.Result
import FeatureRunner.Text.Blank
import FeatureRunner.Text.Lines

/-!
# Recording assertions

A recorder collects the assertions of one step and the lines of its output.  Test lines are
numbered from one; a diagnostic text gives one comment line for each of its lines.  Finishing
writes the plan, once, and after that the recorder accepts no further assertions, although
diagnostics are still written.
-/

namespace FeatureRunner

/-- How an assertion turned out. -/
inductive OutcomeKind where
  | pass
  | fail
  | todo
deriving DecidableEq, Repr

/-- An assertion that was recorded. -/
structure Outcome where
  kind : OutcomeKind
  name : Text
deriving DecidableEq, Repr

/-- How many assertions turned out in each way. -/
structure Summary where
  passed : Nat
  failed : Nat
  todo : Nat
deriving DecidableEq, Repr

/-- The status that a summary gives: a failure beats an open task, which beats passing. -/
def Summary.status (summary : Summary) : Status :=
  if summary.failed ≠ 0 then .failing
  else if summary.todo ≠ 0 then .pending
  else .passing

/-- The assertions and output lines of one step. -/
structure Recorder where
  outcomes : List Outcome
  lines : List Text
  done : Bool
deriving DecidableEq, Repr

namespace Recorder

def empty : Recorder := ⟨[], [], false⟩

/-- The message about an assertion that comes after the plan. -/
def closedMessage : Text := "Assertion recorded after done_testing()".toList

def nextNumber (recorder : Recorder) : Nat := recorder.outcomes.length + 1

/-- The recorder with one more assertion and its line, unless the plan is already written. -/
def record? (recorder : Recorder) (kind : OutcomeKind) (name line : Text) : Option Recorder :=
  if recorder.done then none
  else some { recorder with
    outcomes := recorder.outcomes ++ [⟨kind, name⟩]
    lines := recorder.lines ++ [line] }

theorem record?_of_done {recorder : Recorder} (closed : recorder.done = true)
    (kind : OutcomeKind) (name line : Text) : recorder.record? kind name line = none := by
  simp [record?, closed]

theorem record?_of_open {recorder : Recorder} (isOpen : recorder.done = false)
    (kind : OutcomeKind) (name line : Text) :
    recorder.record? kind name line =
      some ⟨recorder.outcomes ++ [⟨kind, name⟩], recorder.lines ++ [line], false⟩ := by
  simp [record?, isOpen]

/-- What follows the number of a test line with a name. -/
def label (name : Text) : Text := if name = [] then [] else " - ".toList ++ name

def ok? (recorder : Recorder) (passed : Bool) (name : Text) : Option Recorder :=
  let line := Text.ofNat recorder.nextNumber ++ label name
  if passed then recorder.record? .pass name ("ok ".toList ++ line)
  else recorder.record? .fail name ("not ok ".toList ++ line)

theorem ok?_eq (recorder : Recorder) (passed : Bool) (name : Text) :
    recorder.ok? passed name =
      recorder.record? (if passed then .pass else .fail) name
        ((if passed then "ok ".toList else "not ok ".toList) ++
          (Text.ofNat recorder.nextNumber ++ label name)) := by
  cases passed <;> rfl

def todo? (recorder : Recorder) (name reason : Text) : Option Recorder :=
  recorder.record? .todo name
    (Text.stripRight ("not ok ".toList ++ Text.ofNat recorder.nextNumber ++ " - ".toList ++
      name ++ " # TODO ".toList ++ reason))

/-- The comment lines of a diagnostic text, of which there is at least one. -/
def commentLines (message : Text) : List Text :=
  let lines := Text.lines message
  (if lines = [] then [[]] else lines).map fun line => Text.stripRight ("# ".toList ++ line)

def diag (recorder : Recorder) (message : Text) : Recorder :=
  { recorder with lines := recorder.lines ++ commentLines message }

/-- Writes the plan, unless it is already written. -/
def finish (recorder : Recorder) : Recorder :=
  if recorder.done then recorder
  else { recorder with
    lines := recorder.lines ++ ["1..".toList ++ Text.ofNat recorder.outcomes.length]
    done := true }

/-- The output: every line, ended by a line feed. -/
def output (recorder : Recorder) : Text := recorder.lines.flatMap (· ++ ['\n'])

/-- How many assertions of a kind were recorded. -/
def count (recorder : Recorder) (kind : OutcomeKind) : Nat :=
  recorder.outcomes.countP fun outcome => outcome.kind = kind

def summary (recorder : Recorder) : Summary :=
  ⟨recorder.count .pass, recorder.count .fail, recorder.count .todo⟩

def result (recorder : Recorder) : Result := ⟨recorder.summary.status, recorder.output⟩

end Recorder

end FeatureRunner
