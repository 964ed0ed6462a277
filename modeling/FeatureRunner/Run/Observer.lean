import FeatureRunner.Run.Report
import FeatureRunner.Value.Failure

/-!
# Observers

The journal of a run together with the observer that is told about it.  A silent observer does
nothing; a reporting one keeps a report, and ends the run when it has no place for what it is
told.
-/

namespace FeatureRunner

/-- Why a run ended before its end.  An exit is any failure that leaves the run as it is: a request
to leave it, or what is raised outside of the actions. -/
inductive Abort where
  | exit (failure : Failure)
  | closedRecorder
  | nothingOpen
  | unknownStatus (unknown : UnknownStatus)

namespace Abort

def message : Abort → Text
  | exit failure => failure.message
  | closedRecorder => Recorder.closedMessage
  | nothingOpen => "list index out of range".toList
  | unknownStatus unknown => unknown.message

end Abort

/-- Who is told about a run. -/
inductive Listener where
  | silent
  | reporting (report : Report)

/-- The journal of a run and its listener. -/
structure Observer where
  journal : Journal
  listener : Listener

namespace Observer

def start (listener : Listener) : Observer := ⟨[], listener⟩

def enter (observer : Observer) (entry : JournalEntry) : Observer :=
  { observer with journal := observer.journal ++ [entry] }

def give (observer : Observer) (level : NoticeLevel) (origin : String) (message : Text) :
    Observer :=
  observer.enter (.notice ⟨level, origin.toList, message⟩)

/-- Tells the listener.  The callback is in the journal even when the listener ends the run. -/
def tell (observer : Observer) (callback : Callback) : Except Abort Unit × Observer :=
  let entered := observer.enter (.callback callback)
  match entered.listener with
  | .silent => (.ok (), entered)
  | .reporting report =>
    match report.told? callback with
    | some updated => (.ok (), { entered with listener := .reporting updated })
    | none => (.error .nothingOpen, entered)

/-- The report of the listener; a silent one has reported nothing. -/
def report (observer : Observer) : Report :=
  match observer.listener with
  | .silent => .empty
  | .reporting report => report

end Observer

end FeatureRunner
