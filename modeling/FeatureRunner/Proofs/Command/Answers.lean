import FeatureRunner.Proofs.Command.Stages
import FeatureRunner.Proofs.Run.QuietActions

/-!
# When the run command answers with an envelope

With step libraries that load and whose actions raise nothing, the run command answers with an
envelope, unless the level of notices, the settings or the feature have a fault that no envelope
tells of, a row or a step of the feature cannot be made ready, or the text of the envelope cannot be
printed.  This file lists these faults: the command escapes with one of them exactly if its stage
is reached.
-/

namespace FeatureRunner

/-- Whether an envelope tells of a fault of settings. -/
def SettingsFault.isTold : SettingsFault → Bool
  | home .unknown => false
  | tooDeep => false
  | file _ => false
  | _ => true

/-- Whether an envelope tells of a fault of a feature.  Of a file that is not read, it tells only if
nothing is there, or if its path cannot be one. -/
def FeatureFault.isTold : FeatureFault → Bool
  | home .unknown => false
  | tooDeep _ => false
  | file ⟨_, .missing⟩ => true
  | file ⟨_, .nullCharacter⟩ => true
  | file _ => false
  | _ => true

namespace Envelope

variable {data details : Value}

theorem nesting_orNoFields_le (shallow : data.nesting ≤ 7) : (orNoFields data).nesting ≤ 7 := by
  unfold orNoFields
  split
  · exact shallow
  · decide

theorem nesting_ok_le (command : Text) (shallow : data.nesting ≤ 7) :
    (ok (.text command) data currentVersion).nesting ≤ 9 := by
  have own := nesting_orNoFields_le shallow
  simp only [ok, currentVersion, Value.nesting, Value.fieldNesting]
  omega

theorem nesting_err_le (command message : Text) (type : ErrorType) (shallow : details.nesting ≤ 7) :
    (err (.text command) type (.text message) details currentVersion).nesting ≤ 9 := by
  have own := nesting_orNoFields_le shallow
  simp only [err, currentVersion, Value.nesting, Value.fieldNesting]
  omega

end Envelope

namespace Report

/-- However long a report is, no more than seven lists and records are open at once in it. -/
theorem nesting_toValue_le (report : Report) (runId : Text) :
    (report.toValue runId).nesting ≤ 7 := by
  have ofRecord (record : ScenarioRecord) : (recordValue record).nesting ≤ 3 := by
    have ofRow : (Value.record (record.row.map fun field =>
        (field.1, .text field.2.display))).nesting ≤ 1 :=
      Value.nesting_record_le_iff.mpr (List.forall_mem_map.mpr fun _ _ => Nat.le_refl 0)
    have ofSteps : (Value.list (record.steps.map stepValue)).nesting ≤ 2 :=
      Value.nesting_list_le_iff.mpr (List.forall_mem_map.mpr fun _ _ => Nat.le_refl 1)
    refine Value.nesting_record_le_iff.mpr ?_
    simp only [List.forall_mem_cons]
    exact ⟨Nat.zero_le 2, Nat.le_succ_of_le ofRow, Nat.zero_le 2, Nat.zero_le 2, ofSteps,
      List.forall_mem_nil _⟩
  have ofFeature (name : Text) (position : Nat) :
      (report.featureValue name position).nesting ≤ 5 := by
    refine Value.nesting_record_le_iff.mpr ?_
    simp only [List.forall_mem_cons]
    exact ⟨Nat.zero_le 4,
      Value.nesting_list_le_iff.mpr (List.forall_mem_map.mpr fun record _ => ofRecord record),
      List.forall_mem_nil _⟩
  have ofSummary : (Value.record (report.summary.map fun entry =>
      (entry.1.word, .ofNat entry.2))).nesting ≤ 1 :=
    Value.nesting_record_le_iff.mpr (List.forall_mem_map.mpr fun _ _ => Nat.le_refl 0)
  refine Value.nesting_record_le_iff.mpr ?_
  simp only [List.forall_mem_cons]
  exact ⟨Nat.zero_le 6, Nat.zero_le 6, ofSummary.trans (by decide),
    Value.nesting_list_le_iff.mpr (List.forall_mem_map.mpr fun _ _ => ofFeature _ _),
    List.forall_mem_nil _⟩

end Report

namespace Ending

/-- An ending answers if it is an envelope of a success or of an error.  Then its text is all that
is printed, and the exit code is zero or one by its field `ok`.  No more than nine lists and records
are open at once in it, so that there is always room to write it. -/
structure Answers (ending : Ending) : Prop where
  form : (∃ command data, ending = .ok command data) ∨
    ∃ command type message details, ending = .err command type message details
  printed : ∃ content succeeded text, content.field? "ok" = some (.bool succeeded) ∧
    Envelope.textWithin 9 content = some text ∧ ending.output = text ++ ['\n'] ∧
    ending.exitCode = if succeeded then 0 else 1

theorem answers_ok (command : String) {data : Value} (shallow : data.nesting ≤ 7) :
    (ok command data).Answers where
  form := .inl ⟨command, data, rfl⟩
  printed := ⟨_, true, _, rfl, if_pos (Envelope.nesting_ok_le _ shallow), rfl, rfl⟩

theorem answers_err (command : String) (type : ErrorType) (message : Text) {details : Value}
    (shallow : details.nesting ≤ 7) : (err command type message details).Answers where
  form := .inr ⟨command, type, message, details, rfl⟩
  printed := ⟨_, false, _, rfl, if_pos (Envelope.nesting_err_le _ _ _ shallow), rfl, rfl⟩

theorem not_answers_escaping (escape : Escape) : ¬ (escaping escape).Answers := by
  rintro ⟨⟨_, _, ⟨⟩⟩ | ⟨_, _, _, _, ⟨⟩⟩, -⟩

variable {command : String} {details : Value}

theorem ofSettingsFault_eq_ite (fault : SettingsFault) :
    ofSettingsFault command details fault =
      if fault.isTold then err command .invalidArgument fault.message details
      else escaping (.settings fault) := by
  cases fault with
  | home fault => cases fault <;> rfl
  | tooDeep | file | invalidFile | encoding | longNumber | unwritableNumber | notBoolean
  | notLevel => rfl

theorem ofFeatureFault_eq_ite (fault : FeatureFault) :
    ofFeatureFault command details fault =
      if fault.isTold then err command fault.errorType fault.message details
      else escaping (.feature fault) := by
  cases fault with
  | home fault => cases fault <;> rfl
  | file fault =>
      rcases fault with ⟨path, flaw⟩
      cases flaw <;> rfl
  | tooDeep | encoding | malformed | longNumber | invalid => rfl

theorem answers_ofSettingsFault {fault : SettingsFault} (told : fault.isTold = true)
    (shallow : details.nesting ≤ 7) : (ofSettingsFault command details fault).Answers := by
  rw [ofSettingsFault_eq_ite, if_pos told]
  exact answers_err _ _ _ shallow

theorem answers_ofFeatureFault {fault : FeatureFault} (told : fault.isTold = true)
    (shallow : details.nesting ≤ 7) : (ofFeatureFault command details fault).Answers := by
  rw [ofFeatureFault_eq_ite, if_pos told]
  exact answers_err _ _ _ shallow

/-- A run that an ordinary error ends, ends in this error. -/
theorem ofAbort_of_error {failure : Failure} (isError : failure.role = .error) :
    ofAbort (.exit failure) = escaping (.run (.exit failure)) := by
  cases failure with
  | exit => cases isError
  | pending | error | speechless => rfl

/-- An answer is printed as it is, unless its text has a lone half. -/
theorem printed_of_answers {ending : Ending} (answers : ending.Answers) :
    ending.printed = ending ∨ ∃ succeeded content fault, ending = envelope succeeded content ∧
      (Envelope.text content).encodingFault? = some fault := by
  have ⟨succeeded, content, isEnvelope⟩ : ending.IsEnvelope := by
    rcases answers.form with ⟨command, data, rfl⟩ | ⟨command, type, message, details, rfl⟩
    · exact ⟨_, _, rfl⟩
    · exact ⟨_, _, rfl⟩
  rw [isEnvelope, printed]
  cases flawed : (Envelope.text content).encodingFault? with
  | none => exact .inl rfl
  | some fault => exact .inr ⟨succeeded, content, fault, rfl, flawed⟩

theorem printed_of_flawed {succeeded : Bool} {content : Value} {fault : EncodingFault}
    (flawed : (Envelope.text content).encodingFault? = some fault) :
    (envelope succeeded content).printed = escaping (.run (.exit (unprintable fault))) := by
  rw [printed, flawed]

end Ending

namespace World

open Ending

/-- The name of the level of notices, with settings that are looked up with an empty cache. -/
def levelName (world : World) (option? : Option Text) : Except SettingsFault Text :=
  match option?.filter (· ≠ []) with
  | some name => .ok (Text.upper name)
  | none => ((Settings.logLevel world.environment).run none).1

/-- Whether a level of notices is the one that the option or the settings name. -/
def KnowsLevel (world : World) (option? : Option Text) (level : NoticeLevel) : Prop :=
  ∃ name, world.levelName option? = .ok name ∧ NoticeLevel.ofName? name = some level

/-- What holds up the run of a feature, if anything does: what holds up the first of its moves that
cannot be made.  It makes no difference which steps are defined. -/
def heldUp? (mode : RunMode) (selection : Selection) (feature : Feature) : Option Failure :=
  (Dispatcher.featureMoves selection feature).findSome? (Dispatcher.mk .empty mode).obstacle?

/-- The ways in which a stage of the run command escapes.  Each stage needs those before it to
pass. -/
inductive StageEscapes (world : World) (option? : Option Text) (options : RunOptions) :
    Escape → Prop where
  | levelSetting {fault : SettingsFault} (fails : world.levelName option? = .error fault)
      (untold : fault.isTold = false) : StageEscapes world option? options (.settings fault)
  | unknownLevel {name : Text} (named : world.levelName option? = .ok name)
      (unknown : NoticeLevel.ofName? name = none) :
      StageEscapes world option? options (.unknownLevel name)
  | feature {level : NoticeLevel} {fault : FeatureFault} (known : world.KnowsLevel option? level)
      (fails : Feature.load world.environment options.feature = .error fault)
      (untold : fault.isTold = false) : StageEscapes world option? options (.feature fault)
  | extraFields {level : NoticeLevel} {fault : SettingsFault} {feature : Feature}
      {selection : Selection} (known : world.KnowsLevel option? level)
      (loads : Feature.load world.environment options.feature = .ok feature)
      (selects : tagStage options = .ok selection) (unflagged : options.extraFields = none)
      (fails : ((Settings.extraFields world.environment).run none).1 = .error fault)
      (untold : fault.isTold = false) : StageEscapes world option? options (.settings fault)
  | run {level : NoticeLevel} {feature : Feature} {selection : Selection} {extraFields : Bool}
      {failure : Failure} (known : world.KnowsLevel option? level)
      (loads : Feature.load world.environment options.feature = .ok feature)
      (selects : tagStage options = .ok selection)
      (enables : (world.extraFieldsStage options none).1 = .ok extraFields)
      (held : heldUp? (modeOf level extraFields) selection feature = some failure) :
      StageEscapes world option? options (.run (.exit failure))

/-- What the run command ends with, ahead of printing it. -/
def verdict (world : World) (option? : Option Text) (options : RunOptions) : Ending :=
  match world.noticeLevel option? none with
  | (.error ending, _) => ending
  | (.ok level, settings) => (world.run level options settings).1

/-- The ways in which the run command escapes: from one of its stages, or with an envelope whose
text has no bytes. -/
inductive Escapes (world : World) (option? : Option Text) (options : RunOptions) :
    Escape → Prop where
  | stage {escape : Escape} (fails : world.StageEscapes option? options escape) :
      Escapes world option? options escape
  | printing {succeeded : Bool} {content : Value} {fault : EncodingFault}
      (answers : world.verdict option? options = .envelope succeeded content)
      (flawed : (Envelope.text content).encodingFault? = some fault) :
      Escapes world option? options (.run (.exit (unprintable fault)))

def LoadsQuietly (world : World) (libraries : List Text) : Prop :=
  ∀ name ∈ libraries, ∃ steps, world.modules.loadSteps name = .ok steps ∧
    ∀ step ∈ steps, ∀ action, step.handler = .action action → action.IsQuiet

variable {world : World} {options : RunOptions}

theorem noticeLevel_eq (option? : Option Text) :
    (world.noticeLevel option? none).1 =
      match world.levelName option? with
      | .error fault => .error (.ofSettingsFault "cukerun" .null fault)
      | .ok name =>
        match NoticeLevel.ofName? name with
        | some level => .ok level
        | none => .error (.escaping (.unknownLevel name)) := by
  rw [levelName]
  cases given : option?.filter (· ≠ []) with
  | some name => exact congrArg Prod.fst (noticeLevel_of_option given none)
  | none => exact congrArg Prod.fst (noticeLevel_of_settings given none)

theorem libraryStage_of_loadsQuietly (options : RunOptions) {names : List Text}
    (loads : world.LoadsQuietly names) :
    ∃ steps notices, world.libraryStage options names = (.ok steps, notices) ∧
      ∀ step ∈ steps, ∀ action, step.handler = .action action → action.IsQuiet := by
  induction names with
  | nil => exact ⟨[], [], rfl, nofun⟩
  | cons name rest ih =>
      obtain ⟨own, loaded, quiet⟩ := loads name List.mem_cons_self
      obtain ⟨others, notices, staged, quietOthers⟩ :=
        ih fun other later => loads other (List.mem_cons_of_mem _ later)
      rw [libraryStage, loaded]
      dsimp only
      rw [staged]
      refine ⟨own ++ others, _, rfl, fun step among => ?_⟩
      rcases List.mem_append.mp among with here | later
      · exact quiet step here
      · exact quietOthers step later

theorem reportEnding_answers (world : World) (feature : Feature) (report : Report) :
    (world.reportEnding feature report).Answers := by
  have shallow := report.nesting_toValue_le world.runId
  unfold reportEnding
  dsimp only
  split
  · exact answers_ok _ shallow
  · exact answers_err _ _ _ shallow

/-- A run of quiet steps is held up, or comes to its end and answers with its report. -/
theorem runStage_of_quiet {steps : List StepEntry}
    (quiet : ∀ step ∈ steps, ∀ action, step.handler = .action action → action.IsQuiet)
    (feature : Feature) (selection : Selection) (mode : RunMode) (notices : List Notice) :
    match heldUp? mode selection feature with
    | some failure =>
      (world.runStage feature selection mode steps notices).1 = .escaping (.run (.exit failure))
    | none => (world.runStage feature selection mode steps notices).1.Answers := by
  rw [runStage]
  generalize filled : Dispatcher.addSteps ⟨.empty, mode⟩ ⟨notices.map .notice, .reporting .empty⟩
    steps = registered
  have quietDispatcher : registered.1.IsQuiet := by
    apply Dispatcher.isQuiet_of_buckets
    intro bucket among definition member
    rw [← filled] at among
    rcases Registry.handler_of_mem_addAll among member with ⟨_, none, -⟩ | ⟨step, isStep, handles⟩
    · cases none
    · exact quiet step isStep definition.action handles
  have sameObstacles : registered.1.obstacle? = (Dispatcher.mk .empty mode).obstacle? := by
    funext move
    rw [← filled]
    exact Dispatcher.obstacle?_eq_of_mode rfl move
  have ends := Dispatcher.runFeature_of_isQuiet quietDispatcher selection feature
    ⟨registered.2.1, [], [], .idle⟩
  rw [sameObstacles] at ends
  rw [heldUp?]
  obtain ⟨dispatcher, observer, refused⟩ := registered
  dsimp only at ends ⊢
  generalize (dispatcher.runFeature selection feature).run ⟨observer, [], [], .idle⟩ = ran at ends ⊢
  obtain ⟨finished, state⟩ := ran
  cases held : (Dispatcher.featureMoves selection feature).findSome?
      (Dispatcher.mk .empty mode).obstacle? with
  | some failure =>
      rw [held] at ends
      obtain rfl : finished = .error (.exit failure) := ends
      obtain ⟨move, -, obstacle⟩ := List.exists_of_findSome?_eq_some held
      exact ofAbort_of_error (Dispatcher.role_of_obstacle obstacle)
  | none =>
      rw [held] at ends
      obtain ⟨results, returns⟩ := ends
      obtain rfl : finished = .ok results := returns
      exact reportEnding_answers ..

theorem nesting_runDetails_le (options : RunOptions) :
    (Value.record (runDetails options)).nesting ≤ 7 := by
  have ofLibraries : (Value.list (options.libraries.map .text)).nesting ≤ 1 :=
    Value.nesting_list_le_iff.mpr (List.forall_mem_map.mpr fun _ _ => Nat.le_refl 0)
  have ofTags : (Value.ofText? options.tags).nesting ≤ 0 := by
    cases options.tags <;> exact Nat.le_refl 0
  refine Value.nesting_record_le_iff.mpr ?_
  simp only [runDetails, List.forall_mem_cons]
  exact ⟨Nat.zero_le 6, ofLibraries.trans (by decide), ofTags.trans (Nat.zero_le 6),
    List.forall_mem_nil _⟩

section Run

variable {level : NoticeLevel} {settings : Option Record}

theorem run_of_feature_error {fault : FeatureFault}
    (fails : Feature.load world.environment options.feature = .error fault) :
    (world.run level options settings).1 =
      .ofFeatureFault "run" (.record (runDetails options)) fault := by
  rw [run, featureStage, fails]
  rfl

variable {feature : Feature}
  (loads : Feature.load world.environment options.feature = .ok feature)

include loads

theorem run_of_tags_error {ending : Ending} (fails : tagStage options = .error ending) :
    (world.run level options settings).1 = ending := by
  rw [run, featureStage, loads, fails]
  rfl

variable {selection : Selection} (selects : tagStage options = .ok selection)

include selects

theorem run_of_extraFields_error {ending : Ending}
    (fails : (world.extraFieldsStage options settings).1 = .error ending) :
    (world.run level options settings).1 = ending := by
  rw [run, featureStage, loads, selects]
  simp only [Except.mapError, fails]

theorem run_of_loadsQuietly (level : NoticeLevel) {extraFields : Bool}
    (enables : (world.extraFieldsStage options settings).1 = .ok extraFields)
    (quiet : world.LoadsQuietly options.libraries) :
    match heldUp? (modeOf level extraFields) selection feature with
    | some failure =>
      (world.run level options settings).1 = .escaping (.run (.exit failure))
    | none => (world.run level options settings).1.Answers := by
  obtain ⟨steps, notices, staged, quietSteps⟩ := libraryStage_of_loadsQuietly options quiet
  rw [run, featureStage, loads, selects]
  simp only [Except.mapError, enables, staged]
  exact runStage_of_quiet quietSteps ..

end Run

/-- It makes no difference for the second argument of actions which settings were kept. -/
theorem extraFieldsStage_of_faithful {settings : Option Record}
    (faithful : Settings.Faithful world.environment settings) (options : RunOptions) :
    (world.extraFieldsStage options settings).1 = (world.extraFieldsStage options none).1 := by
  have same := Settings.steady_extraFields.same settings faithful
  unfold extraFieldsStage
  cases options.extraFields with
  | some enabled => rfl
  | none =>
      exact congrArg
        (Except.mapError (ofSettingsFault "run" (.record (runDetails options)))) same

theorem extraFieldsStage_of_unflagged (unflagged : options.extraFields = none) :
    (world.extraFieldsStage options none).1 =
      ((Settings.extraFields world.environment).run none).1.mapError
        (.ofSettingsFault "run" (.record (runDetails options))) := by
  rw [extraFieldsStage, unflagged]
  rfl

theorem answers_of_tagStage_error {ending : Ending} (fails : tagStage options = .error ending) :
    ending.Answers := by
  unfold tagStage at fails
  split at fails
  · cases fails
  · split at fails
    · cases fails
    · cases fails
      exact answers_err _ _ _ (nesting_runDetails_le options)

/-- The stage of the second argument fails only without a flag, and with a fault of the settings. -/
theorem exists_fault_of_extraFieldsStage {ending : Ending}
    (fails : (world.extraFieldsStage options none).1 = .error ending) :
    options.extraFields = none ∧ ∃ fault,
      ((Settings.extraFields world.environment).run none).1 = .error fault ∧
      ending = .ofSettingsFault "run" (.record (runDetails options)) fault := by
  cases flag : options.extraFields with
  | some enabled =>
      rw [extraFieldsStage, flag] at fails
      cases fails
  | none =>
      rw [extraFieldsStage_of_unflagged flag] at fails
      cases failed : ((Settings.extraFields world.environment).run none).1 with
      | ok enabled =>
          rw [failed] at fails
          cases fails
      | error fault =>
          rw [failed] at fails
          cases fails
          exact ⟨rfl, fault, rfl, rfl⟩

/-- Once the level of notices is known, the run command escapes from a stage or answers. -/
theorem run_escapes_or_answers {option? : Option Text} {level : NoticeLevel}
    (known : world.KnowsLevel option? level) {settings : Option Record}
    (faithful : Settings.Faithful world.environment settings)
    (quiet : world.LoadsQuietly options.libraries) :
    (∃ escape, world.StageEscapes option? options escape) ∨
      (world.run level options settings).1.Answers := by
  cases loads : Feature.load world.environment options.feature with
  | error fault =>
      cases told : fault.isTold with
      | false => exact .inl ⟨_, .feature known loads told⟩
      | true =>
          rw [run_of_feature_error loads]
          exact .inr (answers_ofFeatureFault told (nesting_runDetails_le options))
  | ok feature =>
      cases selects : tagStage options with
      | error ending =>
          rw [run_of_tags_error loads selects]
          exact .inr (answers_of_tagStage_error selects)
      | ok selection =>
          have same := extraFieldsStage_of_faithful faithful options
          cases enables : (world.extraFieldsStage options none).1 with
          | ok extraFields =>
              have ends := run_of_loadsQuietly loads selects level (same.trans enables) quiet
              cases held : heldUp? (modeOf level extraFields) selection feature with
              | some failure => exact .inl ⟨_, .run known loads selects enables held⟩
              | none =>
                  rw [held] at ends
                  exact .inr ends
          | error ending =>
              rw [run_of_extraFields_error loads selects (same.trans enables)]
              obtain ⟨unflagged, fault, fails, rfl⟩ := exists_fault_of_extraFieldsStage enables
              cases told : fault.isTold with
              | false => exact .inl ⟨_, .extraFields known loads selects unflagged fails told⟩
              | true => exact .inr (answers_ofSettingsFault told (nesting_runDetails_le options))

section Verdict

variable {option? : Option Text}

theorem verdict_of_noticeLevel_error {ending : Ending}
    (fails : (world.noticeLevel option? none).1 = .error ending) :
    world.verdict option? options = ending := by
  rw [verdict]
  rcases noticed : world.noticeLevel option? none with ⟨outcome, settings⟩
  rw [noticed] at fails
  obtain rfl : outcome = .error ending := fails
  rfl

theorem noticeLevel_of_knowsLevel {level : NoticeLevel} (known : world.KnowsLevel option? level) :
    (world.noticeLevel option? none).1 = .ok level := by
  obtain ⟨name, named, isLevel⟩ := known
  rw [noticeLevel_eq, named]
  simp only [isLevel]

theorem verdict_of_knowsLevel {level : NoticeLevel} (known : world.KnowsLevel option? level) :
    world.verdict option? options =
      (world.run level options (world.noticeLevel option? none).2).1 := by
  have found := noticeLevel_of_knowsLevel known
  rw [verdict]
  rcases noticed : world.noticeLevel option? none with ⟨outcome, settings⟩
  rw [noticed] at found
  obtain rfl : outcome = .ok level := found
  rfl

variable (quiet : world.LoadsQuietly options.libraries)

include quiet

/-- Where a stage can escape, the run command does. -/
theorem verdict_of_stageEscapes {escape : Escape}
    (escapes : world.StageEscapes option? options escape) :
    world.verdict option? options = .escaping escape := by
  cases escapes with
  | levelSetting fails untold =>
      apply verdict_of_noticeLevel_error
      rw [noticeLevel_eq, fails]
      simp [ofSettingsFault_eq_ite, untold]
  | unknownLevel named unknown =>
      apply verdict_of_noticeLevel_error
      rw [noticeLevel_eq, named]
      simp only [unknown]
  | feature known fails untold =>
      rw [verdict_of_knowsLevel known, run_of_feature_error fails, ofFeatureFault_eq_ite, untold]
      rfl
  | extraFields known loads selects unflagged fails untold =>
      rw [verdict_of_knowsLevel known]
      apply run_of_extraFields_error loads selects
      rw [extraFieldsStage_of_faithful (faithful_noticeLevel _),
        extraFieldsStage_of_unflagged unflagged, fails, Except.mapError, ofSettingsFault_eq_ite,
        untold]
      rfl
  | @run level feature selection extraFields failure known loads selects enables held =>
      have same : (world.extraFieldsStage options (world.noticeLevel option? none).2).1 = _ :=
        extraFieldsStage_of_faithful (faithful_noticeLevel option?) options
      have ends := run_of_loadsQuietly loads selects level (same.trans enables) quiet
      rw [held] at ends
      rw [verdict_of_knowsLevel known]
      exact ends

/-- The run command answers if no stage can escape. -/
theorem stageEscapes_or_answers (option? : Option Text) :
    (∃ escape, world.StageEscapes option? options escape) ∨
      (world.verdict option? options).Answers := by
  cases named : world.levelName option? with
  | error fault =>
      cases told : fault.isTold with
      | false => exact .inl ⟨_, .levelSetting named told⟩
      | true =>
          have fails : (world.noticeLevel option? none).1 =
              .error (.ofSettingsFault "cukerun" .null fault) := by
            rw [noticeLevel_eq, named]
          rw [verdict_of_noticeLevel_error fails]
          exact .inr (answers_ofSettingsFault told (Nat.zero_le 7))
  | ok name =>
      cases isLevel : NoticeLevel.ofName? name with
      | none => exact .inl ⟨_, .unknownLevel named isLevel⟩
      | some level =>
          have known : world.KnowsLevel option? level := ⟨name, named, isLevel⟩
          rw [verdict_of_knowsLevel known]
          exact run_escapes_or_answers known (faithful_noticeLevel _) quiet

end Verdict

section Session

variable {arguments : List Text} {invocation : Invocation}
  (reads : Invocation.read arguments = .command invocation)
  (runs : invocation.command = .run) (read : RunOptions.read invocation.rest = .command options)

include reads runs read

/-- What the run command ends with is printed. -/
theorem session_ending :
    (world.session arguments).ending = (world.verdict invocation.logLevel options).printed := by
  cases found : (world.noticeLevel invocation.logLevel none).1 with
  | error ending =>
      rw [verdict_of_noticeLevel_error found]
      exact congrArg Session.ending (session_of_noticeLevel_error reads found world.modules)
  | ok level =>
      refine (congrArg Session.ending
        (session_of_runOptions reads runs found read world.modules)).trans ?_
      rw [verdict]
      rcases noticed : world.noticeLevel invocation.logLevel none with ⟨outcome, settings⟩
      rw [noticed] at found
      obtain rfl : outcome = .ok level := found
      rfl

variable (quiet : world.LoadsQuietly options.libraries)

include quiet

theorem ending_of_escapes {escape : Escape}
    (escapes : world.Escapes invocation.logLevel options escape) :
    (world.session arguments).ending = .escaping escape := by
  rw [session_ending reads runs read]
  cases escapes with
  | stage fails =>
      rw [verdict_of_stageEscapes quiet fails]
      rfl
  | printing answers flawed =>
      rw [answers]
      exact printed_of_flawed flawed

/-- With quiet libraries, the run command answers if it cannot escape. -/
theorem escapes_or_answers :
    (∃ escape, world.Escapes invocation.logLevel options escape) ∨
      (world.session arguments).ending.Answers := by
  rw [session_ending reads runs read]
  rcases stageEscapes_or_answers quiet invocation.logLevel with ⟨escape, fails⟩ | answers
  · exact .inl ⟨escape, .stage fails⟩
  · rcases printed_of_answers answers with same | ⟨succeeded, content, fault, isEnvelope, flawed⟩
    · rw [same]
      exact .inr answers
    · exact .inl ⟨_, .printing isEnvelope flawed⟩

end Session

/-- A library whose only action makes one check. -/
def checkingModule : StepModule :=
  .exposing (some (.list [.list [.value (.text "Given".toList), .value (.text ['x']),
    .action ⟨.either, .perform (.ok true []) fun _ => .done⟩]]))

/-- Surroundings without settings of their own, where something is found under a single name. -/
def surroundingsWith (name : Text) (found : Except FileFlaw (Option Bytes)) : Environment :=
  ⟨[("CUKERUN_LOG_LEVEL".toList, "info".toList), ("CUKERUN_EXTRA_FIELDS".toList, [])], [],
    fun path => if path.names = [name] then found else .error .missing⟩

theorem loadsQuietly_checkingModule (environment : Environment) (runId : Text) :
    LoadsQuietly ⟨environment, [(['m'], checkingModule)], runId⟩ [['m']] := by
  intro name member
  rw [List.mem_singleton.mp member]
  refine ⟨_, rfl, fun step among action handles => ?_⟩
  rw [List.mem_singleton.mp among] at handles
  cases handles
  intro extra context found
  rfl

/-- The run command escapes exactly where it can, with exit code one and without any output, and
otherwise it answers. -/
structure AnswersUnlessEscaping (world : World) (arguments : List Text) (option? : Option Text)
    (options : RunOptions) : Prop where
  escapes : ∀ escape, (world.session arguments).ending = .escaping escape ↔
    world.Escapes option? options escape
  silent : ∀ escape, world.Escapes option? options escape →
    (world.session arguments).ending.output = [] ∧
      (world.session arguments).ending.exitCode = 1
  answers : (world.session arguments).ending.Answers ↔
    ∀ escape, ¬ world.Escapes option? options escape

/-- For every command line of the run command that can be read, with libraries that load and whose
actions raise nothing, and whatever there is at the path of the feature: the command answers with an
envelope, unless a fault of the level of notices, of the settings or of the feature lets it escape,
its feature has a row or a step that cannot be made ready, or the envelope has no bytes. -/
theorem session_answersUnlessEscaping (world : World) (arguments : List Text)
    (invocation : Invocation) (options : RunOptions)
    (reads : Invocation.read arguments = .command invocation) (runs : invocation.command = .run)
    (read : RunOptions.read invocation.rest = .command options)
    (quiet : world.LoadsQuietly options.libraries) :
    world.AnswersUnlessEscaping arguments invocation.logLevel options := by
  have ends {escape : Escape} (escapes : world.Escapes invocation.logLevel options escape) :
      (world.session arguments).ending = .escaping escape :=
    ending_of_escapes reads runs read quiet escapes
  have either := escapes_or_answers reads runs read quiet
  constructor
  case escapes =>
    intro escape
    refine ⟨fun escaping => ?_, ends⟩
    rcases either with ⟨other, escapes⟩ | answers
    · -- The command ends only once, so this is the way in which it escapes.
      cases (ends escapes).symm.trans escaping
      exact escapes
    · rw [escaping] at answers
      exact absurd answers (not_answers_escaping escape)
  case silent =>
    intro escape escapes
    rw [ends escapes]
    exact ⟨rfl, rfl⟩
  case answers =>
    constructor
    · intro answers escape escapes
      rw [ends escapes] at answers
      exact not_answers_escaping escape answers
    · intro none
      rcases either with ⟨escape, escapes⟩ | answers
      · exact absurd escapes (none escape)
      · exact answers

/-- The action of a step makes its check, and the command answers. -/
theorem session_answersUnlessEscaping_passing :
    let document : Text := ("\x7b\"name\":\"f\",\"scenarios\":" ++
      "[\x7b\"steps\":[\x7b\"verb\":\"Given\",\"text\":\"x\"\x7d]\x7d]\x7d").toList
    let environment := surroundingsWith ['f'] (.ok (some (document.map fun c => c.toNat.toUInt8)))
    let world : World := ⟨environment, [(['m'], checkingModule)], []⟩
    let arguments := ["run", "f", "--steps", "m"].map String.toList
    (world.session arguments).ending.Answers ∧ (world.session arguments).ending.exitCode = 0 := by
  intro document environment world arguments
  have ended : (world.session arguments).ending.envelope?.map Prod.fst = some true := by
    decide +kernel
  have answered := session_answersUnlessEscaping world arguments
    ⟨none, .run, ["f", "--steps", "m"].map String.toList⟩ ⟨['f'], [['m']], none, none⟩ rfl rfl rfl
    (loadsQuietly_checkingModule environment [])
  obtain ⟨⟨succeeded, content⟩, found, rfl⟩ := Option.map_eq_some_iff.mp ended
  have isEnvelope := eq_envelope_of_envelope? found
  refine ⟨answered.answers.mpr fun escape escapes => ?_, ?_⟩
  · cases isEnvelope.symm.trans ((answered.escapes escape).mpr escapes)
  · rw [isEnvelope]
    rfl

/-- At the path of a folder, the command escapes. -/
theorem not_answers_of_folder :
    ¬ ∀ (world : World) (arguments : List Text) (invocation : Invocation) (options : RunOptions),
      Invocation.read arguments = .command invocation → invocation.command = .run →
      RunOptions.read invocation.rest = .command options →
      world.LoadsQuietly options.libraries → (world.session arguments).ending.Answers := by
  intro claimed
  have answers := claimed
    ⟨surroundingsWith ['d'] (.error .isFolder), [(['m'], checkingModule)], []⟩
    (["run", "d", "--steps", "m"].map String.toList)
    ⟨none, .run, ["d", "--steps", "m"].map String.toList⟩ ⟨['d'], [['m']], none, none⟩ rfl rfl rfl
    (loadsQuietly_checkingModule _ [])
  obtain ⟨content, succeeded, text, -, -, printed, -⟩ := answers.printed
  exact List.append_ne_nil_of_right_ne_nil _ (List.cons_ne_nil _ _) printed.symm

end World

end FeatureRunner
