import FeatureRunner.Command.Session
import FeatureRunner.RunId
import Std.Time.Zoned

/-!
# The program

Everything that touches the world outside: environment variables, files, the clock, chance, and
the two streams that are written to.  What is written and the number that the program exits with
are decided by the session.
-/

namespace FeatureRunner

namespace Program

def variableNames : List String :=
  ["HOME", "XDG_CONFIG_HOME", "CUKERUN_CONFIG_PATH", "CUKERUN_EXTRA_FIELDS", "CUKERUN_LOG_LEVEL"]

/-- The variables that are set, with their values. -/
def readVariables : IO (List (Text × Text)) :=
  variableNames.filterMapM fun name => do
    return (← IO.getEnv name).map fun value => (name.toList, Text.ofString value)

def flawOf : IO.Error → FileFlaw
  | .noFileOrDirectory .. => .missing
  | .noSuchThing .. => .missing
  | .inappropriateType _ 21 _ => .isFolder
  | .inappropriateType .. => .notFolder
  | .invalidArgument _ 36 _ => .nameTooLong
  | .invalidArgument .. => .nullCharacter
  | _ => .denied

/-- Reads a file.  Of one that may not be read it is told whether the way to it may be gone. -/
def readFile (path : FilePath) : IO (Except FileFlaw (Option Bytes)) := do
  let name := String.ofList path.toText
  match ← (IO.FS.readBinFile ⟨name⟩).toBaseIO with
  | .ok content => return .ok (some content.toList)
  | .error fault =>
    match flawOf fault, ← (IO.FS.realPath ⟨name⟩).toBaseIO with
    | .denied, .ok _ => return .ok none
    | flaw, _ => return .error flaw

/-- The surroundings of the program, with the files that carrying out its arguments may look
up. -/
def surroundings (arguments : List Text) : IO Environment := do
  let bare : Environment := ⟨← readVariables, [], fun _ => .error .missing⟩
  let files ← (bare.filesFor arguments).mapM fun path => return (path, ← readFile path)
  return { bare with lookUp := fun path => (files.lookup path).getD (.error .missing) }

def freshRunId : IO Text := do
  let now ← Std.Time.Timestamp.now
  let chance ← IO.rand 0 (RunId.chanceBound - 1)
  return RunId.ofMoment now.toMillisecondsSinceUnixEpoch.val.toNat chance

def clockText : IO Text := do
  let now ← Std.Time.PlainTime.now
  return Notice.timeText now.hour.val.toNat now.minute.val.toNat now.second.val.toNat

/-- Carries out a command line with the step libraries of the given modules, and gives the number
to exit with. -/
def serve (modules : StepModules) (arguments : List String) : IO UInt32 := do
  let arguments := arguments.map Text.ofString
  let world : World := ⟨← surroundings arguments, modules, ← freshRunId⟩
  let session := world.session arguments
  let time ← clockText
  for notice in session.shownNotices do
    IO.eprint (String.ofList (notice.line time))
  IO.eprint (String.ofList session.ending.complaint)
  IO.print (String.ofList session.ending.output)
  return (session.ending.exitCode % 256).toNat.toUInt32

end Program

end FeatureRunner

/-- The program by itself, which has no step libraries of its own. -/
def main (arguments : List String) : IO UInt32 :=
  FeatureRunner.Program.serve [] arguments
