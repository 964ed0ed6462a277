import FeatureRunner.Command.Arguments
import FeatureRunner.Command.Ending
import FeatureRunner.Library
import FeatureRunner.Run.Execution

/-!
# Carrying out a command

A command is carried out in stages, each of which may end it: the level of notices, the feature,
the tags, the second argument of actions, the step libraries in the order of the command line, and
at last the run itself.  Settings that were read in one stage are kept for the next.
-/

namespace FeatureRunner

/-- What the program works with: its surroundings, the modules that can be loaded, and the name of
the run. -/
structure World where
  environment : Environment
  modules : StepModules
  runId : Text

/-- A command that was carried out: the level from which on its notices are shown, everything that
happened, and how it ended. -/
structure Session where
  level : Option NoticeLevel
  journal : Journal
  ending : Ending

def programVersion : Text := "0.1.0".toList

namespace World

/-- The level of notices: the one of the option, unless it is empty, and else the one of the
settings. -/
def noticeLevel (world : World) (option? : Option Text) :
    StateM (Option Record) (Except Ending NoticeLevel) := do
  let name ←
    match option?.filter (· ≠ []) with
    | some name => pure (Except.ok (Text.upper name))
    | none => (Settings.logLevel world.environment).run
  match name with
  | .error fault => return .error (.ofSettingsFault "cukerun" .null fault)
  | .ok name =>
    match NoticeLevel.ofName? name with
    | some level => return .ok level
    | none => return .error (.escaping (.unknownLevel name))

/-- What the envelopes of errors tell about the arguments of the run command. -/
def runDetails (options : RunOptions) : Record :=
  [("feature".toList, .text options.feature),
    ("steps".toList, .list (options.libraries.map .text)),
    ("tags".toList, .ofText? options.tags)]

def featureStage (world : World) (options : RunOptions) : Except Ending Feature :=
  (Feature.load world.environment options.feature).mapError
    (.ofFeatureFault "run" (.record (runDetails options)))

/-- The scenarios to run: those of the tag expression, unless it is empty. -/
def tagStage (options : RunOptions) : Except Ending Selection :=
  match options.tags.filter (· ≠ []) with
  | none => .ok .everything
  | some expression =>
    match TagSpec.parse expression [] with
    | .ok spec => .ok (.tagged spec)
    | .error empty =>
      .error (.err "run" .invalidArgument empty.message (.record (runDetails options)))

/-- Whether actions get a second argument: what the option says, and else the settings. -/
def extraFieldsStage (world : World) (options : RunOptions) :
    StateM (Option Record) (Except Ending Bool) := do
  match options.extraFields with
  | some enabled => return .ok enabled
  | none =>
    let enabled ← (Settings.extraFields world.environment).run
    return enabled.mapError (.ofSettingsFault "run" (.record (runDetails options)))

/-- The step definitions of all libraries in order, with the notices about the libraries that were
loaded. -/
def libraryStage (world : World) (options : RunOptions) :
    List Text → Except Ending (List StepEntry) × List Notice
  | [] => (.ok [], [])
  | name :: names =>
    match world.modules.loadSteps name with
    | .error (.fault fault) =>
      (.error (.err "run" .stepLibraryFailed fault.message
        (.record (Record.put (runDetails options) "module".toList (.text fault.module)))), [])
    | .error (.failure (.exit kind detail)) => (.error (.ofExit kind detail), [])
    | .error (.failure failure) => (.error (.escaping (.library failure)), [])
    | .ok steps =>
      let (others, notices) := libraryStage world options names
      (others.map (steps ++ ·), StepModules.loadedNotice name steps :: notices)

/-- The ending of a run that came to its end, by its report. -/
def reportEnding (world : World) (feature : Feature) (report : Report) : Ending :=
  let value := report.toValue world.runId
  if report.status = .passing then .ok "run" value
  else
    .err "run" .stepsFailed
      ("Feature ".toList ++ feature.name.quoted ++ " finished with status ".toList ++
        report.status.word) value

/-- How steps are run while notices are shown from a level on. -/
def modeOf (level : NoticeLevel) (extraFields : Bool) : RunMode :=
  ⟨extraFields, level.rank ≤ NoticeLevel.debug.rank⟩

/-- The run itself, after everything it needs was found. -/
def runStage (world : World) (feature : Feature) (selection : Selection) (mode : RunMode)
    (steps : List StepEntry) (notices : List Notice) : Ending × Journal :=
  let observer : Observer := ⟨notices.map .notice, .reporting .empty⟩
  let (dispatcher, observer, _) := Dispatcher.addSteps ⟨.empty, mode⟩ observer steps
  let (finished, state) :=
    (dispatcher.runFeature selection feature).run ⟨observer, [], [], .idle⟩
  match finished with
  | .error abort => (.ofAbort abort, state.observer.journal)
  | .ok _ => (world.reportEnding feature state.observer.report, state.observer.journal)

/-- Carries out the run command, with notices shown from a level on. -/
def run (world : World) (level : NoticeLevel) (options : RunOptions)
    (settings : Option Record) : Ending × Journal :=
  match world.featureStage options with
  | .error ending => (ending, [])
  | .ok feature =>
    match tagStage options with
    | .error ending => (ending, [])
    | .ok selection =>
      match (world.extraFieldsStage options settings).1 with
      | .error ending => (ending, [])
      | .ok extraFields =>
        match world.libraryStage options options.libraries with
        | (.error ending, notices) => (ending, notices.map .notice)
        | (.ok steps, notices) =>
          world.runStage feature selection (modeOf level extraFields) steps notices

def version (asEnvelope : Bool) : Ending :=
  if asEnvelope then .ok "version" (.record [("version".toList, .text programVersion)])
  else .line ("cukerun ".toList ++ programVersion)

/-- Carries out a command, once the level of notices is known. -/
def perform (world : World) (level : NoticeLevel) (invocation : Invocation)
    (settings : Option Record) : Ending × Journal :=
  match invocation.command with
  | .version =>
    match readVersion invocation.rest with
    | .misused => (.misused, [])
    | .help => (.help, [])
    | .command asEnvelope => (version asEnvelope, [])
  | .run =>
    match RunOptions.read invocation.rest with
    | .misused => (.misused, [])
    | .help => (.help, [])
    | .command options => world.run level options settings

def session (world : World) (arguments : List Text) : Session :=
  match Invocation.read arguments with
  | .misused => ⟨none, [], .misused⟩
  | .help => ⟨none, [], .help⟩
  | .command invocation =>
    match world.noticeLevel invocation.logLevel none with
    | (.error ending, _) => ⟨none, [], ending.printed⟩
    | (.ok level, settings) =>
      let (ending, journal) := world.perform level invocation settings
      ⟨some level, journal, ending.printed⟩

end World

/-- The files that carrying out a command line may look up: the settings, and the feature. -/
def Environment.filesFor (environment : Environment) (arguments : List Text) : List FilePath :=
  let settings := (Settings.path environment).toOption.toList
  match Invocation.read arguments with
  | .command ⟨_, .run, rest⟩ =>
    match RunOptions.read rest with
    | .command options => settings ++ (environment.path options.feature).toOption.toList
    | _ => settings
  | _ => settings

namespace Session

def shownNotices (session : Session) : List Notice :=
  match session.level with
  | none => []
  | some level => session.journal.notices.filter (·.reaches level)

end Session

end FeatureRunner
