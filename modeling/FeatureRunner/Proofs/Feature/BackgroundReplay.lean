import FeatureRunner.Proofs.Feature.Documents
import FeatureRunner.Proofs.Run.Signals
import FeatureRunner.Proofs.Run.Turns

/-!
# Replaying the background of a document

A background that is read from a document has no rows, whatever rows the document gives it.  So it
is replayed once in each row of every selected scenario, against the empty row, and the number of
steps of a run can be told from the feature.  The rows that a document gives to its background make
no difference to any run.
-/

namespace FeatureRunner

namespace Scenario

theorem length_rows (scenario : Scenario) :
    scenario.rows.length = max 1 scenario.data.length := by
  unfold rows
  split
  · next none =>
    rw [none]
    rfl
  · next some =>
    have filled := List.length_pos_iff.mpr some
    omega

theorem rows_of_data_eq_nil {scenario : Scenario} (none : scenario.data = []) :
    scenario.rows = [[]] :=
  if_pos none

/-- The steps of a background, if there is one. -/
def replayedSteps (background : Option Scenario) : List Step :=
  background.toList.flatMap (·.steps)

/-- The signals of one replay of a background against the empty row, if there is one. -/
def replaySignals (background : Option Scenario) : List Signal :=
  background.toList.flatMap fun background =>
    .backgroundStarted background [] ::
      (background.steps.flatMap (Step.signals []) ++ [.backgroundFinished background []])

/-- The steps of a row with their rows: those of a replay of the background against the empty row,
and then those of the scenario against the row itself. -/
def replayedRowSteps (background : Option Scenario) (row : Scenario × Record) :
    List (Record × Step) :=
  (replayedSteps background).map (fun step => ([], step)) ++
    row.1.steps.map fun step => (row.2, step)

section NoRows

variable {background : Option Scenario}
  (noRows : ∀ scenario, background = some scenario → scenario.data = [])

include noRows

theorem backgroundSteps_of_noRows :
    backgroundSteps background = (replayedSteps background).map fun step => ([], step) := by
  cases background with
  | none => rfl
  | some background =>
      rw [backgroundSteps, rows_of_data_eq_nil (noRows background rfl), List.flatMap_singleton,
        replayedSteps, Option.toList_some, List.flatMap_singleton]

theorem backgroundSignals_of_noRows
    (flagged : ∀ scenario, background = some scenario → scenario.background = true) :
    backgroundSignals background = replaySignals background := by
  cases background with
  | none => rfl
  | some background =>
      rw [backgroundSignals, rows_of_data_eq_nil (noRows background rfl), List.flatMap_singleton,
        replaySignals, Option.toList_some, List.flatMap_singleton, rowSignals, opening, closing,
        if_pos (flagged background rfl), if_pos (flagged background rfl)]
      rfl

theorem filterMap_subject?_outlineMoves (rows : List (Scenario × Record)) :
    (rows.flatMap (outlineMoves background)).filterMap Move.subject? =
      rows.flatMap (replayedRowSteps background) := by
  have row (row : Scenario × Record) : (outlineMoves background row).filterMap Move.subject? =
      replayedRowSteps background row := by
    rw [outlineMoves, filterMap_subject?_rowMoves, filterMap_subject?_backgroundMoves,
      backgroundSteps_of_noRows noRows]
    rfl
  rw [List.filterMap_flatMap]
  exact List.flatMap_congr fun other _ => row other

end NoRows

theorem length_replayedRowSteps (background : Option Scenario) (row : Scenario × Record) :
    (replayedRowSteps background row).length =
      (replayedSteps background).length + row.1.steps.length := by
  rw [replayedRowSteps, List.length_append, List.length_map, List.length_map]

/-- Every row of a scenario has as many steps as the background and the scenario together. -/
theorem length_flatMap_replayedRowSteps (background : Option Scenario)
    (selected : List Scenario) :
    ((outlineRows selected).flatMap (replayedRowSteps background)).length =
      (selected.map fun scenario => max 1 scenario.data.length *
        ((replayedSteps background).length + scenario.steps.length)).sum := by
  induction selected with
  | nil => rfl
  | cons scenario rest ih =>
      have own : ((scenario.rows.map fun row => (scenario, row)).flatMap
          (replayedRowSteps background)).length = max 1 scenario.data.length *
            ((replayedSteps background).length + scenario.steps.length) := by
        rw [List.length_flatMap, List.map_map]
        simp only [Function.comp_def, length_replayedRowSteps, List.map_const',
          List.sum_replicate_nat, length_rows]
      rw [outlineRows_cons, List.flatMap_append, List.length_append, own, ih, List.map_cons,
        List.sum_cons]

end Scenario

/-- A run replays the background of its feature once in each row.  The callbacks are those of the
selected rows, each of them with one replay of the background against the empty row directly after
its beginning; the turns of the run take the steps of these rows in order; and each turn has one of
the results. -/
structure ReplaysOnce (dispatcher : Dispatcher) (feature : Feature) (selected : List Scenario)
    (events : Journal) (turns : List StepTurn) (results : List Result) : Prop where
  signals : events.callbacks.map Callback.signal = .featureStarted feature ::
    (selected.flatMap (fun scenario => scenario.rows.flatMap
      (scenario.rowSignals (Scenario.replaySignals feature.background))) ++
        [.featureFinished feature])
  steps : turns.map StepTurn.subject =
    (Scenario.outlineRows selected).flatMap (Scenario.replayedRowSteps feature.background)
  outcomes : turns.map (fun turn => (turn.course dispatcher).outcome) = results.map .ok
  invocations : events.invocations = turns.filterMap fun turn => (turn.course dispatcher).invocation

namespace Dispatcher

variable {dispatcher : Dispatcher}

/-- A run of a feature whose background is flagged and has no rows replays it once in each row. -/
theorem exists_replaysOnce {selection : Selection} {feature : Feature}
    (wellFormed : feature.WellFormed) {state : RunState} {results : List Result}
    (returns : ((dispatcher.runFeature selection feature).run state).1 = .ok results) :
    ∃ events turns,
      ((dispatcher.runFeature selection feature).run state).2.observer.journal.events =
        state.observer.journal.events ++ events ∧
      ReplaysOnce dispatcher feature (selection.apply feature) events turns results := by
  have noRows (background : Scenario) (has : feature.background = some background) :=
    (wellFormed.flagged background has).2
  have flagged (background : Scenario) (has : feature.background = some background) :=
    (wellFormed.flagged background has).1
  obtain ⟨observer, grown, runs⟩ := dispatcher.exists_run_runFeature selection feature state
  rw [runs] at returns ⊢
  rw [outcome_featurePassage] at returns
  obtain ⟨outcomes, invocations⟩ := dispatcher.walk_returns returns
  refine ⟨_, _, grown, ?_, ?_, outcomes, ?_⟩
  · rw [dispatcher.signals_featurePassage_of_ok returns, Feature.signals]
    unfold Scenario.signals
    rw [Scenario.backgroundSignals_of_noRows noRows flagged]
  · rw [dispatcher.map_subject_turns, featureMoves,
      Scenario.filterMap_subject?_outlineMoves noRows]
  · rw [invocations_featurePassage]
    exact invocations

end Dispatcher

/-- Two documents that differ at most in the rows of their backgrounds: in the field for the rows
itself, which may also be there in only one of them. -/
structure Value.SameButBackgroundRows (document other : Value) : Prop where
  outside : ∀ key, key ≠ "background".toList →
    Record.get? document.fields key = Record.get? other.fields key
  inside : Option.Rel (fun background changed => ∀ key, key ≠ "data".toList →
      Record.get? background.fields key = Record.get? changed.fields key)
    (Record.get? document.fields "background".toList) (Record.get? other.fields "background".toList)

/-- Rows can be given to the background of a document. -/
theorem Value.sameButBackgroundRows_put (fields inner : Record) (rows : Value) :
    (Value.record (fields.put "background".toList (.record inner))).SameButBackgroundRows
      (.record (fields.put "background".toList (.record (inner.put "data".toList rows)))) := by
  refine ⟨fun key outside => ?_, ?_⟩
  · exact (Record.get?_put_of_ne outside.symm).trans (Record.get?_put_of_ne outside.symm).symm
  · change Option.Rel _ (Record.get? (fields.put _ _) _) (Record.get? (fields.put _ _) _)
    rw [Record.get?_put_self, Record.get?_put_self]
    exact .some fun key outside => (Record.get?_put_of_ne outside.symm).symm

namespace Scenario

/-- The rows of a background are not read. -/
theorem backgroundOfDocument_congr {part other : Value}
    (same : ∀ key, key ≠ "data".toList →
      Record.get? part.fields key = Record.get? other.fields key) :
    backgroundOfDocument part = backgroundOfDocument other := by
  have name : part.field? "name" = other.field? "name" := same _ (by decide)
  have steps : part.field? "steps" = other.field? "steps" := same _ (by decide)
  have tags : part.field? "tags" = other.field? "tags" := same _ (by decide)
  simp only [backgroundOfDocument, documentName, documentSteps, documentTags, name, steps, tags]

end Scenario

namespace Feature

theorem ofShapedDocument_congr {document other : Value}
    (same : document.SameButBackgroundRows other) :
    ofShapedDocument document = ofShapedDocument other := by
  have name : document.field? "name" = other.field? "name" := same.outside _ (by decide)
  have scenarios : document.field? "scenarios" = other.field? "scenarios" :=
    same.outside _ (by decide)
  have tags : document.field? "tags" = other.field? "tags" := same.outside _ (by decide)
  have background : (document.field? "background").map Scenario.backgroundOfDocument =
      (other.field? "background").map Scenario.backgroundOfDocument := by
    have inside := same.inside
    unfold Value.field?
    generalize Record.get? document.fields _ = own at inside ⊢
    generalize Record.get? other.fields _ = changed at inside ⊢
    cases inside with
    | none => rfl
    | some alike => exact congrArg some (Scenario.backgroundOfDocument_congr alike)
  simp only [ofShapedDocument, documentName, documentTags, name, scenarios, tags, background]

/-- Replaying the background of a document.  For every document that is read, a run which returns
replays the background once in each row of every selected scenario, at its beginning and against
the empty row; there are as many results as rows times steps, those of the background included;
and every other document that is read and differs only in the rows of the background has the same
run. -/
theorem ofDocument_replaysOnce (document : Value) (feature : Feature)
    (read : ofDocument document = .ok feature) (dispatcher : Dispatcher) (selection : Selection)
    (state : RunState) :
    (∀ results, ((dispatcher.runFeature selection feature).run state).1 = .ok results →
      (∃ events turns,
        ((dispatcher.runFeature selection feature).run state).2.observer.journal.events =
          state.observer.journal.events ++ events ∧
        ReplaysOnce dispatcher feature (selection.apply feature) events turns results) ∧
      results.length = ((selection.apply feature).map fun scenario =>
        max 1 scenario.data.length * ((Scenario.replayedSteps feature.background).length +
          scenario.steps.length)).sum) ∧
    (∀ other otherFeature, document.SameButBackgroundRows other →
      ofDocument other = .ok otherFeature →
      (dispatcher.runFeature selection otherFeature).run state =
        (dispatcher.runFeature selection feature).run state) := by
  obtain ⟨isFeature, rfl⟩ := ofDocument_eq_ok_iff.mp read
  refine ⟨fun results returns => ?_, fun other otherFeature same readOther => ?_⟩
  · obtain ⟨events, turns, grown, replays⟩ :=
      Dispatcher.exists_replaysOnce isFeature.read.1 returns
    refine ⟨⟨events, turns, grown, replays⟩, ?_⟩
    -- Each turn takes one step and has one result.
    calc results.length
        = turns.length := by
          have counted := congrArg List.length replays.outcomes
          rw [List.length_map, List.length_map] at counted
          exact counted.symm
      _ = _ := by
          rw [← List.length_map StepTurn.subject, replays.steps,
            Scenario.length_flatMap_replayedRowSteps]
  · obtain ⟨-, rfl⟩ := ofDocument_eq_ok_iff.mp readOther
    rw [ofShapedDocument_congr same]

/-- The background of a document is replayed once in each of two rows, also if three rows are given
to the background itself. -/
theorem ofDocument_replaysOnce_rows :
    let step : Value := .record [("verb".toList, .text ['G']), ("text".toList, .text [])]
    let outline : Value := .record [("steps".toList, .list [step, step]),
      ("data".toList, .list [.record [], .record []])]
    let background : Record := [("steps".toList, .list [step])]
    let document (background : Record) : Value := .record
      (Record.put [("name".toList, .text ['f']), ("scenarios".toList, .list [outline])]
        "background".toList (.record background))
    let given := document
      (background.put "data".toList (.list [.record [], .record [], .record []]))
    let dispatcher : Dispatcher := ⟨.empty, false⟩
    let run (feature : Feature) :=
      (dispatcher.runFeature .everything feature).run ⟨.start .silent, [], [], .idle⟩
    ∃ feature other results turns,
      ofDocument (document background) = .ok feature ∧ ofDocument given = .ok other ∧
      (run feature).1 = .ok results ∧
      results.map Result.status =
        [.undefined, .pending, .pending, .undefined, .pending, .pending] ∧
      ReplaysOnce dispatcher feature feature.scenarios (run feature).2.observer.journal.events
        turns results ∧
      run other = run feature := by
  intro step outline background document given dispatcher run
  let feature := ofShapedDocument (document background)
  let other := ofShapedDocument given
  have reads (part : Value) (sound : featureShape.faults part = []) :
      ofDocument part = .ok (ofShapedDocument part) :=
    ofDocument_eq_ok_iff.mpr
      ⟨featureShape_admits_iff.mp ((Shape.faults_eq_nil_iff _ _).mp sound), rfl⟩
  have read := reads (document background) (by decide +kernel)
  have readOther := reads given (by decide +kernel)
  obtain ⟨replays, unchanged⟩ := ofDocument_replaysOnce (document background) feature read
    dispatcher .everything ⟨.start .silent, [], [], .idle⟩
  have statuses : (run feature).1.toOption.map (·.map Result.status) =
      some [.undefined, .pending, .pending, .undefined, .pending, .pending] := by
    decide +kernel
  obtain ⟨results, returns, known⟩ := exists_results_of_statuses statuses
  obtain ⟨⟨events, turns, grown, shaped⟩, -⟩ := replays results returns
  have sameEvents : (run feature).2.observer.journal.events = events := grown
  rw [← sameEvents] at shaped
  exact ⟨feature, other, results, turns, read, readOther, returns, known, shaped,
    unchanged given other (Value.sameButBackgroundRows_put _ _ _) readOther⟩

end Feature

end FeatureRunner
