import FeatureRunner.Proofs.Command.StageFaults
import FeatureRunner.Proofs.Report.Rows

/-!
# The stages of the run command

An envelope of the run command is that of the first stage which fails, and then nothing was run.
Up to the step libraries it makes no difference which modules there are.  If no stage fails, the
envelope says whether all steps passed, with the report of the run.
-/

namespace FeatureRunner

/-- A report decides how a run ends.  It was told everything that the run told, so that its results
are those of the steps that ended, and its status is the worst of theirs.  If all of them passed,
the run ends well, and otherwise with an error; in both cases the envelope has the report. -/
structure Report.Decides (report : Report) (runId : Text) (journal : Journal) (ending : Ending) :
    Prop where
  told : Report.empty.toldAll? journal.callbacks = some report
  results : report.results = journal.stepEnds.map (·.result)
  status : (report.toValue runId).field? "status" =
    some (.text (Status.worst (journal.stepEnds.map (·.result.status))).word)
  passes : (∀ stepEnd ∈ journal.stepEnds, stepEnd.result.status = .passing) →
    ending = .ok "run" (report.toValue runId) ∧ ending.exitCode = 0
  fails : (∃ stepEnd ∈ journal.stepEnds, stepEnd.result.status ≠ .passing) →
    (∃ message, ending = .err "run" .stepsFailed message (report.toValue runId)) ∧
      ending.exitCode = 1

/-- Printing leaves an ending as it is, if there is an envelope afterwards. -/
theorem Ending.printed_of_isEnvelope {ending : Ending} (answers : ending.printed.IsEnvelope) :
    ending.printed = ending := by
  unfold printed at answers ⊢
  split at answers
  · split at answers
    · rfl
    · exact absurd answers (not_isEnvelope_escaping _)
  · rfl

namespace World

open Ending

variable {world : World} {options : RunOptions}

theorem reportEnding_decides {feature : Feature} {report : Report} {journal : Journal}
    (told : Report.empty.toldAll? journal.callbacks = some report) :
    report.Decides world.runId journal (world.reportEnding feature report) := by
  have results : report.results = journal.stepEnds.map (·.result) :=
    Report.results_toldAll? told
  have statuses : report.results.map Result.status =
      journal.stepEnds.map (·.result.status) := by
    rw [results, List.map_map]
    rfl
  have passing : report.status = .passing ↔
      ∀ stepEnd ∈ journal.stepEnds, stepEnd.result.status = .passing := by
    rw [Report.status, statuses, Status.worst_eq_passing_iff, List.forall_mem_map]
  refine ⟨told, results, ?_, ?_, ?_⟩
  · change some (Value.text report.status.word) = _
    rw [Report.status, statuses]
  · intro all
    rw [reportEnding, if_pos (passing.mpr all)]
    exact ⟨rfl, rfl⟩
  · rintro ⟨stepEnd, among, other⟩
    rw [reportEnding, if_neg fun all => other (passing.mp all stepEnd among)]
    exact ⟨⟨_, rfl⟩, rfl⟩

/-- A run that is answered at all is answered with its report. -/
theorem exists_runStage_decides {feature : Feature} {selection : Selection} {mode : RunMode}
    {steps : List StepEntry} {notices : List Notice} {ending : Ending} {journal : Journal}
    (ran : world.runStage feature selection mode steps notices = (ending, journal))
    (answers : ending.IsEnvelope) :
    ∃ report : Report, report.Decides world.runId journal ending := by
  have agrees := Dispatcher.addSteps_agrees ⟨.empty, mode⟩
    ⟨notices.map .notice, .reporting .empty⟩ steps
  rw [runStage] at ran
  rcases registered : Dispatcher.addSteps ⟨.empty, mode⟩
    ⟨notices.map .notice, .reporting .empty⟩ steps with ⟨dispatcher, begun, refused⟩
  rw [registered] at agrees ran
  obtain ⟨observer, grown, told, runs⟩ :=
    dispatcher.exists_told_runFeature selection feature ⟨begun, [], [], .idle⟩
  dsimp only at ran
  rw [runs] at ran
  cases outcome : (dispatcher.featurePassage selection feature
      (RunState.standing ⟨begun, [], [], .idle⟩)).outcome with
  | error abort =>
      rw [outcome] at ran
      obtain ⟨rfl, -⟩ := Prod.ext_iff.mp ran
      exact absurd answers (not_isEnvelope_ofAbort abort)
  | ok results =>
      rw [outcome] at ran
      obtain ⟨rfl, rfl⟩ := Prod.ext_iff.mp ran
      -- The report was empty, and nothing but notices came before the run.
      rw [agrees.1, Journal.events_map_notice, List.nil_append] at grown
      rw [← grown, Journal.callbacks_events, agrees.2, Listener.toldAll?_reporting] at told
      obtain ⟨report, hears, reports⟩ := Option.map_eq_some_iff.mp told
      refine ⟨report, ?_⟩
      have same : observer.report = report := by
        rw [Observer.report, ← reports]
      dsimp only
      rw [Standing.observer_observedBy, same]
      exact reportEnding_decides hears

/-- The same world with other modules. -/
def withModules (world : World) (modules : StepModules) : World := { world with modules }

theorem featureStage_withModules (modules : StepModules) :
    (world.withModules modules).featureStage options = world.featureStage options :=
  rfl

theorem extraFieldsStage_withModules (modules : StepModules) :
    (world.withModules modules).extraFieldsStage options = world.extraFieldsStage options :=
  rfl

theorem noticeLevel_withModules (modules : StepModules) :
    (world.withModules modules).noticeLevel = world.noticeLevel :=
  rfl

theorem exists_of_bind_eq_ok {ε α β : Type} {first : Except ε α} {next : α → Except ε β}
    {result : β} (returned : first >>= next = .ok result) :
    ∃ found, first = .ok found ∧ next found = .ok result := by
  cases first with
  | error fault => cases returned
  | ok found => exact ⟨found, rfl, returned⟩

/-- If a stage ahead of the libraries fails, nothing happens, whatever modules there are. -/
theorem run_of_inputs_error {level : NoticeLevel} {settings : Option Record} {ending : Ending}
    (ended : world.inputs options settings = .error ending) (modules : StepModules) :
    (world.withModules modules).run level options settings = (ending, []) := by
  rw [run, featureStage_withModules, extraFieldsStage_withModules]
  unfold inputs at ended
  cases loaded : world.featureStage options with
  | error ending =>
      rw [loaded] at ended
      cases ended
      rfl
  | ok feature =>
      rw [loaded] at ended
      dsimp only
      cases selected : tagStage options with
      | error ending =>
          rw [selected] at ended
          cases ended
          rfl
      | ok selection =>
          rw [selected] at ended
          dsimp only
          cases told : (world.extraFieldsStage options settings).1 with
          | error ending =>
              rw [told] at ended
              cases ended
              rfl
          | ok extraFields =>
              rw [told] at ended
              cases ended

section Libraries

variable {level : NoticeLevel} {settings : Option Record} {feature : Feature}
  {selection : Selection} {extraFields : Bool}
  (loaded : world.inputs options settings = .ok (feature, selection, extraFields))

include loaded

theorem stages_of_inputs : world.featureStage options = .ok feature ∧
    tagStage options = .ok selection ∧
    (world.extraFieldsStage options settings).1 = .ok extraFields := by
  obtain ⟨_, ofFeature, others⟩ := exists_of_bind_eq_ok loaded
  obtain ⟨_, ofTags, others⟩ := exists_of_bind_eq_ok others
  obtain ⟨_, ofExtra, same⟩ := exists_of_bind_eq_ok others
  cases same
  exact ⟨ofFeature, ofTags, ofExtra⟩

theorem run_of_library_error {ending : Ending} {notices : List Notice}
    (ended : world.libraryStage options options.libraries = (.error ending, notices)) :
    world.run level options settings = (ending, notices.map .notice) := by
  obtain ⟨ofFeature, ofTags, ofExtra⟩ := stages_of_inputs loaded
  simp only [run, ofFeature, ofTags, ofExtra, ended]

theorem run_of_library_ok {steps : List StepEntry} {notices : List Notice}
    (found : world.libraryStage options options.libraries = (.ok steps, notices)) :
    world.run level options settings =
      world.runStage feature selection (modeOf level extraFields) steps notices := by
  obtain ⟨ofFeature, ofTags, ofExtra⟩ := stages_of_inputs loaded
  simp only [run, ofFeature, ofTags, ofExtra, found]

theorem run_of_libraryFault {fault : StageFault}
    (fails : options.libraryStages.findSome? (Stage.fault? world) = some fault)
    (answers : (world.run level options settings).1.IsEnvelope) :
    (world.run level options settings).1 = fault.ending ∧
      (world.run level options settings).2.invocations = [] := by
  obtain ⟨ending, ended, told⟩ := (libraryStage_tells options.libraries).fails fault fails
  rcases entered : world.libraryStage options options.libraries with ⟨outcome, notices⟩
  rw [entered] at ended
  obtain rfl : outcome = .error ending := ended
  rw [run_of_library_error loaded entered] at answers ⊢
  refine ⟨told answers, ?_⟩
  rw [← Journal.invocations_events, Journal.events_map_notice]
  rfl

theorem exists_run_decides
    (passes : options.libraryStages.findSome? (Stage.fault? world) = none)
    (answers : (world.run level options settings).1.IsEnvelope) :
    ∃ report : Report, report.Decides world.runId (world.run level options settings).2
      (world.run level options settings).1 := by
  obtain ⟨steps, found⟩ := (libraryStage_tells options.libraries).passes passes
  rcases entered : world.libraryStage options options.libraries with ⟨outcome, notices⟩
  rw [entered] at found
  obtain rfl : outcome = .ok steps := found
  rw [run_of_library_ok loaded entered] at answers ⊢
  exact exists_runStage_decides rfl answers

end Libraries

/-- The run command answers by its stages.  Where one of them fails, the envelope is that of the
first one which does, and no action is invoked; if it comes ahead of the libraries, it makes no
difference which modules there are.  Where all of them pass, the report of the run decides. -/
structure AnswersByStages (world : World) (arguments : List Text) (ahead libraries : List Stage) :
    Prop where
  fails : ∀ fault, (ahead ++ libraries).findSome? (Stage.fault? world) = some fault →
    (world.session arguments).ending = fault.ending ∧
      (world.session arguments).ending.exitCode = 1 ∧
      (world.session arguments).journal.invocations = []
  untouched : ∀ fault, ahead.findSome? (Stage.fault? world) = some fault →
    ∀ modules, (world.withModules modules).session arguments = world.session arguments
  decided : (ahead ++ libraries).findSome? (Stage.fault? world) = none →
    ∃ report : Report, report.Decides world.runId (world.session arguments).journal
      (world.session arguments).ending

section Session

variable {arguments : List Text} {invocation : Invocation}

theorem session_of_noticeLevel_error (reads : Invocation.read arguments = .command invocation)
    {ending : Ending} (ended : (world.noticeLevel invocation.logLevel none).1 = .error ending)
    (modules : StepModules) :
    (world.withModules modules).session arguments = ⟨none, [], ending.printed⟩ := by
  rw [session, reads]
  dsimp only
  rw [noticeLevel_withModules]
  rcases noticed : world.noticeLevel invocation.logLevel none with ⟨outcome, settings⟩
  rw [noticed] at ended
  obtain rfl : outcome = .error ending := ended
  rfl

section LevelKnown

variable (reads : Invocation.read arguments = .command invocation)
  (runs : invocation.command = .run) {level : NoticeLevel}
  (found : (world.noticeLevel invocation.logLevel none).1 = .ok level)

include reads runs found

/-- Once the level of notices is known, the command itself is carried out. -/
theorem session_of_runOptions (read : RunOptions.read invocation.rest = .command options)
    (modules : StepModules) :
    (world.withModules modules).session arguments = ⟨some level,
      ((world.withModules modules).run level options
        (world.noticeLevel invocation.logLevel none).2).2,
      ((world.withModules modules).run level options
        (world.noticeLevel invocation.logLevel none).2).1.printed⟩ := by
  rw [session, reads]
  dsimp only
  rw [noticeLevel_withModules]
  rcases noticed : world.noticeLevel invocation.logLevel none with ⟨outcome, settings⟩
  rw [noticed] at found
  obtain rfl : outcome = .ok level := found
  dsimp only
  rw [perform, runs]
  dsimp only
  rw [read]

theorem not_isEnvelope_session (unread : invocation.runOptions? = none) :
    ¬ (world.session arguments).ending.IsEnvelope := by
  rw [session, reads]
  dsimp only
  rcases noticed : world.noticeLevel invocation.logLevel none with ⟨outcome, settings⟩
  rw [noticed] at found
  obtain rfl : outcome = .ok level := found
  dsimp only
  rw [perform, runs]
  dsimp only
  rw [Invocation.runOptions?] at unread
  cases read : RunOptions.read invocation.rest with
  | misused | help => rintro ⟨_, _, ⟨⟩⟩
  | command options =>
      rw [read] at unread
      cases unread

end LevelKnown

/-- If a stage ahead of the libraries fails, the session ends with its fault, unless it ends without
an envelope; nothing has happened, whatever modules there are. -/
theorem exists_session_of_fault (reads : Invocation.read arguments = .command invocation)
    (runs : invocation.command = .run) {fault : StageFault}
    (fails : (invocation.stages invocation.asksForLevel).findSome? (Stage.fault? world) =
      some fault) :
    ∃ level ending, (ending.IsEnvelope → ending = fault.ending) ∧
      ∀ modules, (world.withModules modules).session arguments =
        ⟨level, [], ending.printed⟩ := by
  rw [Invocation.stages, List.findSome?_append] at fails
  cases ofLevel : (Invocation.levelStages invocation.asksForLevel).findSome?
      (Stage.fault? world) with
  | some other =>
      rw [ofLevel] at fails
      cases fails
      obtain ⟨ending, ended, told⟩ := exists_noticeLevel_of_fault ofLevel
      exact ⟨none, ending, told, session_of_noticeLevel_error reads ended⟩
  | none =>
      rw [ofLevel, Option.none_or] at fails
      cases found : (world.noticeLevel invocation.logLevel none).1 with
      | error ending =>
          have unanswered := not_isEnvelope_noticeLevel ofLevel found
          exact ⟨none, ending, fun answers => absurd answers unanswered,
            session_of_noticeLevel_error reads found⟩
      | ok level =>
          -- Only now the arguments of the command are read.
          cases read : RunOptions.read invocation.rest with
          | misused | help =>
              rw [Invocation.runOptions?, read] at fails
              cases fails
          | command options =>
              rw [Invocation.runOptions?, read] at fails
              obtain ⟨ending, ended, told⟩ :=
                (inputs_tells (faithful_noticeLevel _)).fails fault fails
              refine ⟨some level, ending, told, fun modules => ?_⟩
              rw [session_of_runOptions reads runs found read modules,
                run_of_inputs_error ended modules]

/-- If all stages ahead of the libraries pass, a session that ends with an envelope has got as far
as the libraries. -/
theorem exists_session_of_passes (reads : Invocation.read arguments = .command invocation)
    (runs : invocation.command = .run)
    (passes : (invocation.stages invocation.asksForLevel).findSome? (Stage.fault? world) = none)
    (answers : (world.session arguments).ending.IsEnvelope) :
    ∃ level options settings feature selection extraFields,
      invocation.runOptions? = some options ∧
      world.inputs options settings = .ok (feature, selection, extraFields) ∧
      world.session arguments = ⟨some level, (world.run level options settings).2,
        (world.run level options settings).1.printed⟩ := by
  rw [Invocation.stages, List.findSome?_append, Option.or_eq_none_iff] at passes
  obtain ⟨ofLevel, ofOthers⟩ := passes
  cases found : (world.noticeLevel invocation.logLevel none).1 with
  | error ending =>
      have ended : world.session arguments = ⟨none, [], ending.printed⟩ :=
        session_of_noticeLevel_error reads found world.modules
      rw [ended] at answers
      rw [printed_of_isEnvelope answers] at answers
      exact absurd answers (not_isEnvelope_noticeLevel ofLevel found)
  | ok level =>
      cases read : RunOptions.read invocation.rest with
      | misused | help =>
          have unread : invocation.runOptions? = none := by
            rw [Invocation.runOptions?, read]
          exact absurd answers (not_isEnvelope_session reads runs found unread)
      | command options =>
          have parsed : invocation.runOptions? = some options := by
            rw [Invocation.runOptions?, read]
          rw [parsed] at ofOthers
          obtain ⟨⟨feature, selection, extraFields⟩, loaded⟩ :=
            (inputs_tells (faithful_noticeLevel _)).passes ofOthers
          exact ⟨level, options, _, feature, selection, extraFields, parsed, loaded,
            session_of_runOptions reads runs found read world.modules⟩

/-- The stages of the run command.  For every command line of the run command that is answered with
an envelope, the stages decide about the envelope in their order: the level of notices, if no option
that is not empty gives it; the feature; the tags, if there is an expression that is not empty; the
second argument of actions, if no flag decides about it; and the libraries. -/
theorem session_answersByStages (world : World) (arguments : List Text) (invocation : Invocation)
    (reads : Invocation.read arguments = .command invocation) (runs : invocation.command = .run)
    (answers : (world.session arguments).ending.IsEnvelope) :
    world.AnswersByStages arguments (invocation.stages invocation.asksForLevel)
      invocation.libraryStages := by
  cases ofAhead : (invocation.stages invocation.asksForLevel).findSome? (Stage.fault? world) with
  | some fault =>
      obtain ⟨level, ending, told, ended⟩ := exists_session_of_fault reads runs ofAhead
      have here : world.session arguments = ⟨level, [], ending.printed⟩ := ended world.modules
      rw [here] at answers
      have shown := printed_of_isEnvelope answers
      rw [shown] at answers here
      have same := told answers
      constructor
      · intro other fails
        rw [List.findSome?_append, ofAhead] at fails
        cases fails
        rw [here]
        exact ⟨same, same ▸ rfl, rfl⟩
      · intro _ _ modules
        rw [here, ended modules, shown]
      · intro passes
        rw [List.findSome?_append, ofAhead] at passes
        cases passes
  | none =>
      obtain ⟨level, options, settings, feature, selection, extraFields, parsed, loaded, here⟩ :=
        exists_session_of_passes reads runs ofAhead answers
      have libraries : (invocation.stages invocation.asksForLevel ++
          invocation.libraryStages).findSome? (Stage.fault? world) =
            options.libraryStages.findSome? (Stage.fault? world) := by
        rw [List.findSome?_append, ofAhead, Option.none_or, Invocation.libraryStages, parsed,
          Option.elim_some]
      rw [here] at answers
      have shown := printed_of_isEnvelope answers
      rw [shown] at answers here
      constructor
      · intro fault fails
        obtain ⟨same, uninvoked⟩ :=
          run_of_libraryFault loaded (libraries.symm.trans fails) answers
        rw [here]
        exact ⟨same, same ▸ rfl, uninvoked⟩
      · intro fault fails
        rw [ofAhead] at fails
        cases fails
      · intro passes
        rw [here]
        exact exists_run_decides loaded (libraries.symm.trans passes) answers

/-- A step is not defined: all stages pass, and the command ends with the report of the run. -/
theorem session_answersByStages_undefined :
    let document : Text := ("\x7b\"name\":\"f\",\"scenarios\":" ++
      "[\x7b\"steps\":[\x7b\"verb\":\"Given\",\"text\":\"x\"\x7d]\x7d]\x7d").toList
    let environment : Environment := ⟨[("CUKERUN_LOG_LEVEL".toList, "info".toList),
      ("CUKERUN_EXTRA_FIELDS".toList, "on".toList)], [], fun path =>
        if path.names = [['f']] then .ok (some (document.map fun c => c.toNat.toUInt8))
        else .error .missing⟩
    let world : World := ⟨environment, [(['m'], .exposing (some (.list [])))], []⟩
    let session := world.session (["run", "f", "--steps", "m"].map String.toList)
    ∃ report : Report, report.Decides [] session.journal session.ending ∧
      report.results.map Result.status = [.undefined] := by
  intro document environment world session
  have ran : session.ending.envelope?.isSome = true ∧
      session.journal.stepEnds.map (·.result.status) = [.undefined] := by
    decide +kernel
  obtain ⟨envelope, statuses⟩ := ran
  obtain ⟨⟨succeeded, content⟩, found⟩ := Option.isSome_iff_exists.mp envelope
  have answers : session.ending.IsEnvelope := ⟨succeeded, content, eq_envelope_of_envelope? found⟩
  have answered := session_answersByStages world _
    ⟨none, .run, ["f", "--steps", "m"].map String.toList⟩ rfl rfl answers
  obtain ⟨report, decides⟩ := answered.decided (by decide +kernel)
  refine ⟨report, decides, ?_⟩
  rw [decides.results, List.map_map]
  exact statuses

/-- With an option that is given and empty, the level of notices is still looked up in the settings.
Then it is not the missing feature that the command ends with. -/
theorem not_answersByStages_of_empty_option :
    ¬ ∀ (world : World) (arguments : List Text) (invocation : Invocation),
      Invocation.read arguments = .command invocation → invocation.command = .run →
      (world.session arguments).ending.IsEnvelope →
      world.AnswersByStages arguments (invocation.stages invocation.logLevel.isNone)
        invocation.libraryStages := by
  intro claimed
  let world : World :=
    ⟨⟨[("CUKERUN_LOG_LEVEL".toList, [' '])], [], fun _ => .error .missing⟩, [], []⟩
  let options : List Text := ["f", "--steps", "m"].map String.toList
  let arguments : List Text := ["--log-level", "", "run"].map String.toList ++ options
  have ran : ((world.session arguments).ending.envelope?.bind fun found =>
      (found.2.field? "command").map Value.display) = some "cukerun".toList := by
    decide +kernel
  obtain ⟨⟨succeeded, content⟩, found, command⟩ := Option.bind_eq_some_iff.mp ran
  have ended := eq_envelope_of_envelope? found
  have answered := claimed world arguments ⟨some [], .run, options⟩ rfl rfl ⟨_, _, ended⟩
  obtain ⟨told, -, -⟩ := answered.fails _ rfl
  rw [ended] at told
  injection told with _ same
  rw [same] at command
  have commands : some "run".toList = some "cukerun".toList := command
  exact absurd commands (by decide)

end Session

end World

end FeatureRunner
