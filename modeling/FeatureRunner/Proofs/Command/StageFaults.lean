import FeatureRunner.Command.Session
import FeatureRunner.Proofs.Library.Loading
import FeatureRunner.Proofs.Settings.Cache

/-!
# Faults of the stages of the run command

Ahead of the run, the command goes through stages: the level of notices, the feature, the tags, the
second argument of actions, and the step libraries.  Some of them are left out, depending on the
command line.

What a stage fails with can be told from the surroundings alone, since it makes no difference which
settings an earlier stage has left in the cache.  This file says which fault each stage has, and
that the stage ends with it, unless it ends without an envelope.
-/

namespace FeatureRunner

namespace Ending

def IsEnvelope (ending : Ending) : Prop :=
  ∃ succeeded content, ending = .envelope succeeded content

/-- The envelope that an ending is, if it is one: whether the command succeeded, and the content. -/
def envelope? : Ending → Option (Bool × Value)
  | envelope succeeded content => some (succeeded, content)
  | _ => none

theorem eq_envelope_of_envelope? {ending : Ending} {succeeded : Bool} {content : Value}
    (found : ending.envelope? = some (succeeded, content)) :
    ending = envelope succeeded content := by
  cases ending with
  | envelope =>
      cases found
      rfl
  | line | help | misused | leaving | escaping => cases found

theorem not_isEnvelope_escaping (escape : Escape) : ¬ (escaping escape).IsEnvelope := by
  rintro ⟨_, _, ⟨⟩⟩

theorem not_isEnvelope_ofExit (kind : Text) (detail : Option Value) :
    ¬ (ofExit kind detail).IsEnvelope := by
  unfold ofExit
  split <;> rintro ⟨_, _, ⟨⟩⟩

theorem not_isEnvelope_ofAbort (abort : Abort) : ¬ (ofAbort abort).IsEnvelope := by
  unfold ofAbort
  split
  · exact not_isEnvelope_ofExit _ _
  · exact not_isEnvelope_escaping _

theorem ofSettingsFault_eq_err {command : String} {details : Value} {fault : SettingsFault}
    (answers : (ofSettingsFault command details fault).IsEnvelope) :
    ofSettingsFault command details fault =
      err command .invalidArgument fault.message details := by
  unfold ofSettingsFault at answers ⊢
  split at answers
  · exact absurd answers (not_isEnvelope_escaping _)
  · exact absurd answers (not_isEnvelope_escaping _)
  · exact absurd answers (not_isEnvelope_escaping _)
  · rfl

end Ending

/-- The type of error that a fault of a feature is told as. -/
def FeatureFault.errorType : FeatureFault → ErrorType
  | file ⟨_, .missing⟩ => .notFound
  | _ => .invalidArgument

theorem Ending.ofFeatureFault_eq_err {command : String} {details : Value} {fault : FeatureFault}
    (answers : (ofFeatureFault command details fault).IsEnvelope) :
    ofFeatureFault command details fault =
      err command fault.errorType fault.message details := by
  cases fault with
  | home fault =>
      cases fault with
      | unknown => exact absurd answers (not_isEnvelope_escaping _)
      | nullCharacter => rfl
  | file fault =>
      rcases fault with ⟨path, flaw⟩
      cases flaw with
      | missing | nullCharacter => rfl
      | notFolder | isFolder | nameTooLong | denied =>
          exact absurd answers (not_isEnvelope_escaping _)
  | tooDeep => exact absurd answers (not_isEnvelope_escaping _)
  | encoding | malformed | longNumber | invalid => rfl

def LoadFailure.message : LoadFailure → Text
  | .fault flawed => flawed.message
  | .failure failed => failed.message

/-- The fault of a library names the library. -/
theorem StepModules.module_of_loadSteps {modules : StepModules} {name : Text} {fault : LibraryFault}
    (refused : modules.loadSteps name = .error (.fault fault)) : fault.module = name := by
  cases loadSteps_eq_iff.mp refused <;> rfl

/-- A stage that the run command goes through ahead of the run. -/
inductive Stage where
  | level
  | feature (options : RunOptions)
  | tags (options : RunOptions) (expression : Text)
  | extraFields (options : RunOptions)
  | library (options : RunOptions) (name : Text)

/-- A fault of a stage, in the form in which an envelope tells of it. -/
structure StageFault where
  command : String
  type : ErrorType
  message : Text
  details : Value

namespace StageFault

def ending (fault : StageFault) : Ending :=
  .err fault.command fault.type fault.message fault.details

def ofRun (options : RunOptions) (type : ErrorType) (message : Text) : StageFault :=
  ⟨"run", type, message, .record (World.runDetails options)⟩

def ofLibrary (options : RunOptions) (name : Text) (message : Text) : StageFault :=
  ⟨"run", .stepLibraryFailed, message,
    .record ((World.runDetails options).put "module".toList (.text name))⟩

/-- The fault of an outcome, if it is one. -/
def of? {ε α : Type} (tell : ε → StageFault) : Except ε α → Option StageFault
  | .ok _ => none
  | .error fault => some (tell fault)

end StageFault

/-- The fault of a stage, if it fails.  Settings are looked up with an empty cache. -/
def Stage.fault? (world : World) : Stage → Option StageFault
  | level =>
    StageFault.of? (fun fault => ⟨"cukerun", .invalidArgument, fault.message, .null⟩)
      ((Settings.logLevel world.environment).run none).1
  | feature options =>
    StageFault.of? (fun fault => .ofRun options fault.errorType fault.message)
      (Feature.load world.environment options.feature)
  | tags options expression =>
    StageFault.of? (fun empty => .ofRun options .invalidArgument empty.message)
      (TagSpec.parse expression [])
  | extraFields options =>
    StageFault.of? (fun fault => .ofRun options .invalidArgument fault.message)
      ((Settings.extraFields world.environment).run none).1
  | library options name =>
    StageFault.of? (fun failure => .ofLibrary options name failure.message)
      (world.modules.loadSteps name)

/-- The stages that come ahead of the libraries: the feature, the tags of an expression that is not
empty, and the second argument of actions if no flag decides about it. -/
def RunOptions.stages (options : RunOptions) : List Stage :=
  .feature options :: ((options.tags.filter (· ≠ [])).toList.map (.tags options) ++
    if options.extraFields.isNone then [.extraFields options] else [])

/-- The libraries in the order of the command line. -/
def RunOptions.libraryStages (options : RunOptions) : List Stage :=
  options.libraries.map (.library options)

namespace Invocation

def runOptions? (invocation : Invocation) : Option RunOptions :=
  match RunOptions.read invocation.rest with
  | .command options => some options
  | _ => none

/-- The stage of the level of notices, if the settings are asked for it. -/
def levelStages (asked : Bool) : List Stage := if asked then [.level] else []

/-- The stages ahead of the libraries. -/
def stages (invocation : Invocation) (asked : Bool) : List Stage :=
  levelStages asked ++ invocation.runOptions?.elim [] RunOptions.stages

def libraryStages (invocation : Invocation) : List Stage :=
  invocation.runOptions?.elim [] RunOptions.libraryStages

/-- Whether no option that is not empty gives the level of notices. -/
def asksForLevel (invocation : Invocation) : Bool :=
  (invocation.logLevel.filter (· ≠ [])).isNone

end Invocation

/-- What a stage comes to agrees with its fault: there is a result if there is no fault, and
otherwise an ending, which is that of the fault if it is an envelope. -/
structure Ending.Tells {α : Type} (outcome : Except Ending α) (fault? : Option StageFault) :
    Prop where
  passes : fault? = none → ∃ found, outcome = .ok found
  fails : ∀ fault, fault? = some fault →
    ∃ ending, outcome = .error ending ∧ (ending.IsEnvelope → ending = fault.ending)

namespace Ending

variable {ε α β : Type}

theorem tells_ok (found : α) : Tells (.ok found) none where
  passes _ := ⟨found, rfl⟩
  fails _ fault := by cases fault

theorem tells_error {ending : Ending} {fault : StageFault}
    (told : ending.IsEnvelope → ending = fault.ending) :
    Tells (.error ending : Except Ending α) (some fault) where
  passes none := by cases none
  fails other has := by
    obtain rfl : fault = other := Option.some.inj has
    exact ⟨ending, rfl, told⟩

theorem tells_mapError {ending : ε → Ending} {tell : ε → StageFault}
    (told : ∀ fault, (ending fault).IsEnvelope → ending fault = (tell fault).ending)
    (outcome : Except ε α) :
    Tells (outcome.mapError ending) (StageFault.of? tell outcome) := by
  cases outcome with
  | ok found => exact tells_ok found
  | error fault => exact tells_error (told fault)

/-- One stage after the other has the fault of the first, and only without it that of the second. -/
theorem Tells.bind {outcome : Except Ending α} {next : α → Except Ending β}
    {fault? others? : Option StageFault} (first : Tells outcome fault?)
    (second : ∀ found, Tells (next found) others?) :
    Tells (outcome >>= next) (fault?.or others?) := by
  cases fault? with
  | some fault =>
      obtain ⟨ending, rfl, told⟩ := first.fails fault rfl
      exact tells_error told
  | none =>
      obtain ⟨found, rfl⟩ := first.passes rfl
      exact second found

end Ending

namespace World

open Ending

variable {world : World} {options : RunOptions}

theorem featureStage_tells :
    Tells (world.featureStage options) (Stage.fault? world (.feature options)) :=
  tells_mapError (fun _ => Ending.ofFeatureFault_eq_err) _

theorem tagStage_tells : Tells (tagStage options)
    (((options.tags.filter (· ≠ [])).toList.map (.tags options)).findSome?
      (Stage.fault? world)) := by
  unfold tagStage
  cases options.tags.filter (· ≠ []) with
  | none => exact tells_ok _
  | some expression =>
      rw [Option.toList_some, List.map_singleton, List.findSome?_singleton, Stage.fault?]
      dsimp only
      cases TagSpec.parse expression [] with
      | ok spec => exact tells_ok _
      | error empty => exact tells_error fun _ => rfl

theorem extraFieldsStage_tells {settings : Option Record}
    (faithful : Settings.Faithful world.environment settings) :
    Tells (world.extraFieldsStage options settings).1
      ((if options.extraFields.isNone then [.extraFields options] else []).findSome?
        (Stage.fault? world)) := by
  unfold extraFieldsStage
  cases options.extraFields with
  | some enabled => exact tells_ok _
  | none =>
      rw [Option.isNone_none, if_pos rfl, List.findSome?_singleton, Stage.fault?,
        ← Settings.steady_extraFields.same settings faithful]
      exact tells_mapError (fun _ => Ending.ofSettingsFault_eq_err) _

theorem libraryStage_tells (names : List Text) :
    Tells (world.libraryStage options names).1
      ((names.map (.library options)).findSome? (Stage.fault? world)) := by
  induction names with
  | nil => exact tells_ok []
  | cons name rest ih =>
      rw [List.map_cons, List.findSome?_cons, Stage.fault?]
      unfold libraryStage
      cases loaded : world.modules.loadSteps name with
      | ok steps =>
          constructor
          · intro none
            obtain ⟨others, found⟩ := ih.passes none
            exact ⟨steps ++ others, by simp only [found, Except.map]⟩
          · intro fault fails
            obtain ⟨ending, ended, told⟩ := ih.fails fault fails
            exact ⟨ending, by simp only [ended, Except.map], told⟩
      | error failure =>
          cases failure with
          | fault fault =>
              refine tells_error fun _ => ?_
              rw [StepModules.module_of_loadSteps loaded]
              rfl
          | failure failure =>
              cases failure with
              | exit =>
                  exact tells_error fun answers => absurd answers (Ending.not_isEnvelope_ofExit _ _)
              | pending | error | speechless =>
                  exact tells_error fun answers =>
                    absurd answers (Ending.not_isEnvelope_escaping _)

section NoticeLevel

variable {option? : Option Text}

theorem noticeLevel_of_option {name : Text} (given : option?.filter (· ≠ []) = some name)
    (cache : Option Record) :
    world.noticeLevel option? cache =
      (match NoticeLevel.ofName? name.upper with
        | some level => .ok level
        | none => .error (.escaping (.unknownLevel name.upper)), cache) := by
  unfold noticeLevel
  rw [given]
  change (match NoticeLevel.ofName? name.upper with
    | some level => _
    | none => _ : StateM (Option Record) (Except Ending NoticeLevel)) cache = _
  cases NoticeLevel.ofName? name.upper <;> rfl

theorem noticeLevel_of_settings (absent : option?.filter (· ≠ []) = none)
    (cache : Option Record) :
    world.noticeLevel option? cache =
      (match ((Settings.logLevel world.environment).run cache).1 with
        | .error fault => .error (.ofSettingsFault "cukerun" .null fault)
        | .ok name =>
          match NoticeLevel.ofName? name with
          | some level => .ok level
          | none => .error (.escaping (.unknownLevel name)),
        ((Settings.logLevel world.environment).run cache).2) := by
  unfold noticeLevel
  rw [absent]
  dsimp only
  rcases ran : (Settings.logLevel world.environment).run cache with ⟨_ | name, settings⟩
  · simp only [bind, StateT.bind, ran]
    rfl
  · simp only [bind, StateT.bind, ran]
    cases NoticeLevel.ofName? name <;> rfl

theorem faithful_noticeLevel (option? : Option Text) :
    Settings.Faithful world.environment (world.noticeLevel option? none).2 := by
  cases given : option?.filter (· ≠ []) with
  | some name =>
      rw [noticeLevel_of_option given]
      trivial
  | none =>
      rw [noticeLevel_of_settings given]
      exact Settings.steady_logLevel.faithful none trivial

/-- Without a fault of the stage, the level of notices can only be one that there is not. -/
theorem not_isEnvelope_noticeLevel {invocation : Invocation}
    (passes : (Invocation.levelStages invocation.asksForLevel).findSome? (Stage.fault? world) =
      none) {ending : Ending}
    (ended : (world.noticeLevel invocation.logLevel none).1 = .error ending) :
    ¬ ending.IsEnvelope := by
  -- Wherever the name of a level comes from, one that no level has is refused without an envelope.
  have unknown {name : Text} (ended : (match NoticeLevel.ofName? name with
      | some level => .ok level
      | none => .error (.escaping (.unknownLevel name)) : Except Ending NoticeLevel) =
        .error ending) : ¬ ending.IsEnvelope := by
    cases named : NoticeLevel.ofName? name with
    | some level =>
        rw [named] at ended
        cases ended
    | none =>
        rw [named] at ended
        cases ended
        exact Ending.not_isEnvelope_escaping _
  cases given : invocation.logLevel.filter (· ≠ []) with
  | some name =>
      rw [noticeLevel_of_option given] at ended
      exact unknown ended
  | none =>
      rw [noticeLevel_of_settings given] at ended
      rw [Invocation.asksForLevel, given, Option.isNone_none, Invocation.levelStages, if_pos rfl,
        List.findSome?_singleton, Stage.fault?] at passes
      cases found : ((Settings.logLevel world.environment).run none).1 with
      | ok name =>
          rw [found] at ended
          exact unknown ended
      | error fault =>
          rw [found] at passes
          cases passes

theorem exists_noticeLevel_of_fault {invocation : Invocation} {fault : StageFault}
    (fails : (Invocation.levelStages invocation.asksForLevel).findSome? (Stage.fault? world) =
      some fault) :
    ∃ ending, (world.noticeLevel invocation.logLevel none).1 = .error ending ∧
      (ending.IsEnvelope → ending = fault.ending) := by
  cases given : invocation.logLevel.filter (· ≠ []) with
  | some name =>
      rw [Invocation.asksForLevel, given, Invocation.levelStages] at fails
      cases fails
  | none =>
      rw [noticeLevel_of_settings given]
      rw [Invocation.asksForLevel, given, Option.isNone_none, Invocation.levelStages, if_pos rfl,
        List.findSome?_singleton, Stage.fault?] at fails
      cases found : ((Settings.logLevel world.environment).run none).1 with
      | ok name =>
          rw [found] at fails
          cases fails
      | error fault =>
          rw [found] at fails
          cases fails
          exact ⟨_, rfl, Ending.ofSettingsFault_eq_err⟩

end NoticeLevel

/-- What the stages ahead of the libraries find: the feature, the scenarios to run, and whether
actions get a second argument. -/
def inputs (world : World) (options : RunOptions) (settings : Option Record) :
    Except Ending (Feature × Selection × Bool) := do
  let feature ← world.featureStage options
  let selection ← tagStage options
  let extraFields ← (world.extraFieldsStage options settings).1
  return (feature, selection, extraFields)

theorem inputs_tells {settings : Option Record}
    (faithful : Settings.Faithful world.environment settings) :
    Tells (world.inputs options settings)
      (options.stages.findSome? (Stage.fault? world)) := by
  have inOrder : options.stages.findSome? (Stage.fault? world) =
      (Stage.fault? world (.feature options)).or
        ((((options.tags.filter (· ≠ [])).toList.map (Stage.tags options)).findSome?
          (Stage.fault? world)).or
            (((if options.extraFields.isNone then [Stage.extraFields options] else []).findSome?
              (Stage.fault? world)).or none)) := by
    rw [RunOptions.stages, List.findSome?_cons, List.findSome?_append, Option.or_none]
    cases Stage.fault? world (.feature options) <;> rfl
  -- A stage that is left out has no fault and always a result.
  rw [inOrder]
  apply featureStage_tells.bind
  intro feature
  apply tagStage_tells.bind
  intro selection
  apply (extraFieldsStage_tells faithful).bind
  intro extraFields
  exact tells_ok _

end World

end FeatureRunner
