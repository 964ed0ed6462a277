import FeatureRunner.Proofs.Recorder.LineFormat
import FeatureRunner.Proofs.Run.StepEnds
import FeatureRunner.Proofs.Run.StepHistory

/-!
# The format of the outputs of a run

Every output that a run comes to is written for one of two reports: that a step never ran, with the
reason, or what its recorder was called.  This file says which report a step gives, and proves that
its output keeps the line format exactly if the texts in the report do: a reason has no line break,
and every recorded assertion fits in its test line.

Nothing in a run sees to that.  A noted text is cut into lines, each of which becomes a comment, but
names and reasons are written as they are given, and with a line break in them they can add test
lines of their own.
-/

namespace FeatureRunner

open RecorderCall

/-- What the output of a step is written for. -/
inductive StepReport where
  | skipped (reason : Text)
  | recorded (calls : List RecorderCall)

namespace StepReport

def output : StepReport → Text
  | skipped reason => Result.skipMarker ++ reason
  | recorded calls => (recorderOf calls).output

/-- How the recorded assertions turned out. -/
def kinds : StepReport → List OutcomeKind
  | skipped _ => []
  | recorded calls => (recorderOf calls).outcomes.map Outcome.kind

/-- Whether the plan is written, if there is one. -/
def Finished : StepReport → Prop
  | skipped _ => True
  | recorded calls => planned calls = true

/-- Whether the texts of a report leave its lines as they are. -/
def Fits : StepReport → Prop
  | skipped reason => '\n' ∉ reason
  | recorded calls => ∀ call ∈ accepted calls, call.FitsLine

theorem not_keepsFormat_skipped {reason : Text} (broken : '\n' ∈ reason) :
    ¬ KeepsFormat (Result.skipMarker ++ reason) [] := by
  have unbroken : '\n' ∉ Result.skipMarker := by decide
  rintro (⟨-, single⟩ | ⟨lines, cut, tells⟩)
  · exact Text.splitAt_eq_singleton_iff.mp single (List.mem_append_right _ broken)
  · -- The first line begins with the marker, so it is no line of any sort.
    rw [Text.splitAt_eq, Text.firstPart_append '\n' unbroken] at cut
    rcases lines with _ | ⟨first, rest⟩
    · cases (List.cons.inj cut).1
    · have begins := (List.cons.inj cut).1
      rcases tells.sorts first List.mem_cons_self with test | comment | plan
      · rw [← begins] at test
        cases test
      · rw [← begins] at comment
        cases comment
      · rw [← begins] at plan
        cases plan

/-- The output of a report keeps its line format exactly if the texts of the report fit. -/
theorem keepsFormat_iff {report : StepReport} (finished : report.Finished) :
    KeepsFormat report.output report.kinds ↔ report.Fits := by
  cases report with
  | skipped reason =>
      constructor
      · intro keeps broken
        exact not_keepsFormat_skipped broken keeps
      · intro unbroken
        refine .inl ⟨List.prefix_append _ _, Text.splitAt_of_not_mem ?_⟩
        exact List.mem_append.not.mpr (not_or.mpr ⟨by decide, unbroken⟩)
  | recorded calls =>
      have cut : Text.splitAt '\n' (recorderOf calls).output =
          (entriesOf calls).flatMap (Text.splitAt '\n') ++ [[]] := Text.splitAt_ended '\n' _
      rw [kinds, map_kind_outcomes]
      refine Iff.trans ?_ (tellsOutcomes_iff finished)
      constructor
      · rintro (⟨-, single⟩ | ⟨lines, cutInto, tells⟩)
        · -- The plan is an entry, and every entry ends in a line feed.
          have plans := filter_isPlanLine_entriesOf calls
          rw [if_pos (show planned calls = true from finished)] at plans
          have plan : planLine (accepted calls).length ∈ entriesOf calls :=
            List.mem_of_mem_filter (plans ▸ List.mem_singleton_self _)
          have feeds : '\n' ∈ (recorderOf calls).output :=
            List.mem_flatMap.mpr ⟨_, plan, List.mem_append_right _ (List.mem_singleton_self _)⟩
          exact absurd feeds (Text.splitAt_eq_singleton_iff.mp single)
        · rw [output, cut] at cutInto
          rwa [List.append_cancel_right cutInto]
      · exact fun tells => .inr ⟨_, cut, tells⟩

/-- A result that comes of a report has its output, which keeps its line format exactly if the texts
of the report fit. -/
structure Gives (report : StepReport) (result : Result) : Prop where
  output : result.output = report.output
  format : KeepsFormat result.output report.kinds ↔ report.Fits

theorem gives_of_output {report : StepReport} {result : Result} (finished : report.Finished)
    (output : result.output = report.output) : report.Gives result where
  output := output
  format := by
    rw [output]
    exact keepsFormat_iff finished

end StepReport

namespace Dispatcher

open DispatchM

variable (dispatcher : Dispatcher)

/-- The report of a dispatch. -/
def dispatchReport (shortCircuit : Bool) (context : StepContext) : StepReport :=
  if shortCircuit then .skipped shortCircuitReason
  else
    match dispatcher.registry.find context.verb context.text with
    | none => .skipped (undefinedReason context)
    | some (definition, found) =>
      .recorded (dispatcher.invokedCalls context definition found)

/-- The report of a step for a row, from where a run stands. -/
def stepReport (row : Record) (step : Step) (standing : Standing) : StepReport :=
  match Template.expand step.text row with
  | .ok text =>
    dispatcher.dispatchReport standing.shortCircuit.armed
      (.build step text standing.featureStash standing.scenarioStash)
  | .error unresolved =>
    if standing.shortCircuit.armed then .skipped shortCircuitReason
    else
      .recorded (unpreparedCalls
        (.build step step.text standing.featureStash standing.scenarioStash) unresolved.message)

theorem courseOf_gives {shortCircuit : Bool} {context : StepContext} {result : Result}
    (returns : (dispatcher.courseOf shortCircuit context).outcome = .ok result) :
    (dispatcher.dispatchReport shortCircuit context).Gives result := by
  unfold courseOf at returns
  unfold dispatchReport
  cases shortCircuit with
  | true =>
      cases returns
      exact StepReport.gives_of_output trivial rfl
  | false =>
      cases sought : dispatcher.registry.find context.verb context.text with
      | none =>
          rw [sought] at returns
          cases returns
          exact StepReport.gives_of_output trivial rfl
      | some match_ =>
          rw [sought] at returns
          obtain ⟨rfl, -⟩ := dispatcher.invokedCourse_returns returns
          exact StepReport.gives_of_output planned_executedCalls rfl

theorem unprepared_gives {context : StepContext} {reason : Text} {result : Result}
    (returns : (StepCourse.unprepared context reason).outcome = .ok result) :
    (StepReport.recorded (unpreparedCalls context reason)).Gives result := by
  cases returns
  refine StepReport.gives_of_output rfl ?_
  rw [recorder_unprepared]
  rfl

theorem stepCourse_gives {row : Record} {step : Step} {standing : Standing} {result : Result}
    (returns : (dispatcher.stepCourse row step standing).outcome = .ok result) :
    (dispatcher.stepReport row step standing).Gives result := by
  unfold stepCourse at returns
  unfold stepReport
  cases expanded : Template.expand step.text row with
  | ok text =>
      rw [expanded] at returns
      exact dispatcher.courseOf_gives returns
  | error unresolved =>
      rw [expanded] at returns
      cases armed : standing.shortCircuit.armed with
      | true =>
          rw [armed] at returns
          cases returns
          exact StepReport.gives_of_output trivial rfl
      | false =>
          rw [armed] at returns
          exact unprepared_gives returns

/-- The outputs of a dispatcher.  Whatever returns a result gives it for a report: a dispatch, a
step that could not be prepared, a step that is skipped with a reason, and a step of a row.  And so
it is for every end of a step that a run of a feature tells. -/
structure GivesReports : Prop where
  dispatch : ∀ shortCircuit state result,
    ((dispatcher.dispatch shortCircuit).run state).1 = .ok result →
      (dispatcher.dispatchReport shortCircuit state.context).Gives result
  failStep : ∀ reason state result, ((failStep reason).run state).1 = .ok result →
    (StepReport.recorded (unpreparedCalls state.context reason)).Gives result
  skipStep : ∀ given reason state result,
    ((skipStepByValue given reason).run state).1 = .ok result →
      (StepReport.skipped reason).Gives result
  runStep : ∀ row step state result, ((dispatcher.runStep row step).run state).1 = .ok result →
    (dispatcher.stepReport row step state.standing).Gives result
  runFeature : ∀ selection feature state, ∃ events : Journal,
    ((dispatcher.runFeature selection feature).run state).2.observer.journal.events =
      state.observer.journal.events ++ events ∧
    (∀ ending ∈ events.stepEnds, ∃ row step begun,
      .step row step ∈ featureMoves selection feature ∧
      (dispatcher.stepCourse row step begun).outcome = .ok ending.result ∧
      (dispatcher.stepReport row step begun).Gives ending.result) ∧
    ∀ results, ((dispatcher.runFeature selection feature).run state).1 = .ok results →
      results = events.stepEnds.map (·.result)

theorem skipStepByValue_gives {given : Value} {reason : Text} {state : DispatchState}
    {result : Result} (returns : ((skipStepByValue given reason).run state).1 = .ok result) :
    (StepReport.skipped reason).Gives result := by
  unfold skipStepByValue skipWith Result.skippedOfValue Result.ofValue at returns
  rw [run_bind_of_ok (run_tell_stepStarted state)] at returns
  cases known : Status.ofValue? given with
  | none =>
      simp only [known] at returns
      cases returns
  | some status =>
      simp only [known] at returns
      rw [run_conclude] at returns
      split at returns
      · cases returns
        exact StepReport.gives_of_output trivial rfl
      · cases returns

/-- Every output is that of a report, and keeps its line format exactly if the texts of the report
fit. -/
theorem givesReports : dispatcher.GivesReports where
  dispatch shortCircuit state result returns :=
    dispatcher.courseOf_gives
      ((dispatcher.dispatch_follows shortCircuit state).outcome_of_ok returns)
  failStep reason state result returns :=
    unprepared_gives ((failStep_follows reason state).outcome_of_ok returns)
  skipStep given reason state result returns := skipStepByValue_gives returns
  runStep row step state result returns := by
    have ready := dispatcher.ready_of_runStep_returns returns
    obtain ⟨observer, -, outcome, -⟩ :=
      (dispatcher.runStep_follows ready state).run_eq_of_ok returns
    exact dispatcher.stepCourse_gives outcome
  runFeature selection feature state := by
    obtain ⟨observer, grown, runs⟩ := dispatcher.exists_run_runFeature selection feature state
    rw [runs]
    refine ⟨_, grown, fun ending told => ?_, fun results returns => ?_⟩
    · rw [stepEnds_featurePassage] at told
      obtain ⟨row, step, begun, among, returns⟩ := dispatcher.exists_step_of_mem_stepEnds told
      exact ⟨row, step, begun, among, returns, dispatcher.stepCourse_gives returns⟩
    · rw [outcome_featurePassage] at returns
      rw [stepEnds_featurePassage]
      exact (map_result_stepEnds_walk returns).symm

/-- An action that names a check with two lines, the second of which reads as a further check. -/
def addingLine : Action :=
  ⟨.either, .perform (.ok true "saved\nok 3 - checked".toList) fun _ => .done⟩

/-- A name with a line break adds a test line for a check that was never made. -/
theorem not_keepsFormat_of_lineBreak :
    ¬ ∀ (dispatcher : Dispatcher) (state : DispatchState) (result : Result),
      ((dispatcher.dispatch false).run state).1 = .ok result →
        KeepsFormat result.output (dispatcher.dispatchReport false state.context).kinds := by
  intro claimed
  let definition : StepDefinition :=
    ⟨[], ⟨[], ⟨false, false, false⟩, .sequence [], 0⟩, addingLine⟩
  let dispatcher : Dispatcher := ⟨⟨[([], [definition])]⟩, false⟩
  let state : DispatchState := ⟨.build ⟨[], [], .null, .null⟩ [] [] [], .start .silent⟩
  cases returns : ((dispatcher.dispatch false).run state).1 with
  | error abort =>
      have ends : ((dispatcher.dispatch false).run state).1.isOk = true := by decide +kernel
      rw [returns] at ends
      cases ends
  | ok result =>
      have gives := dispatcher.courseOf_gives
        ((dispatcher.dispatch_follows false state).outcome_of_ok returns)
      have fits : ∀ call ∈ accepted (dispatcher.invokedCalls state.context definition ⟨0, 0, []⟩),
          call.FitsLine := gives.format.mp (claimed dispatcher state result returns)
      revert fits
      decide +kernel

end Dispatcher

end FeatureRunner
