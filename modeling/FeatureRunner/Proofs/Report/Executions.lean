import FeatureRunner.Proofs.Report.Rows

/-!
# Reports of executions

One report may be told of several executions, each of a feature with definitions and a selection
of its own.  Whatever they do, and even if some of them end early, the views of the report agree
after every callback.  As long as all of them return, the report holds for every row that was kept
its record, followed by the records of its background, while its results are in the order in which
the steps ended: those of the background first.
-/

namespace FeatureRunner

/-- The ends of steps in a row: those in each replayed row of the background, and those of the
steps of the row itself. -/
structure RowEnds where
  replayed : List (List StepEnd)
  own : List StepEnd

def RowEnds.inOrder (ends : RowEnds) : List StepEnd := ends.replayed.flatten ++ ends.own

/-- A row that a selection keeps, with its scenario, the background of its feature, and the
position of this feature in a report. -/
structure KeptRow where
  position : Nat
  background : Option Scenario
  row : Scenario × Record

namespace KeptRow

def replayedRows (kept : KeptRow) : List (Scenario × Record) :=
  Scenario.outlineRows kept.background.toList

/-- The steps of a row have ended, in each replayed row of the background and in the row itself. -/
structure EndsWith (kept : KeptRow) (ends : RowEnds) : Prop where
  replayed : List.Forall₂ (fun row own => StepEnd.Of row.1.steps own) kept.replayedRows
    ends.replayed
  own : StepEnd.Of kept.row.1.steps ends.own

def ownRecord (kept : KeptRow) (ends : RowEnds) : ScenarioRecord :=
  Scenario.recordOf kept.position kept.row ends.own

def replayedRecords (kept : KeptRow) (ends : RowEnds) : List ScenarioRecord :=
  List.zipWith (Scenario.recordOf kept.position) kept.replayedRows ends.replayed

/-- The records of a row: its own, followed by those of its background. -/
def records (kept : KeptRow) (ends : RowEnds) : List ScenarioRecord :=
  kept.ownRecord ends :: kept.replayedRecords ends

/-- The results of a row: those in the records of its background, followed by those in its own. -/
def results (kept : KeptRow) (ends : RowEnds) : List Result :=
  (kept.replayedRecords ends).flatMap ScenarioRecord.results ++ (kept.ownRecord ends).results

theorem results_recordOf (position : Nat) (row : Scenario × Record) (ends : List StepEnd) :
    (Scenario.recordOf position row ends).results = ends.map (·.result) :=
  List.map_map ..

theorem flatMap_results_recordOf (position : Nat) {rows : List (Scenario × Record)}
    {ends : List (List StepEnd)}
    (ended : List.Forall₂ (fun row own => StepEnd.Of row.1.steps own) rows ends) :
    (List.zipWith (Scenario.recordOf position) rows ends).flatMap ScenarioRecord.results =
      ends.flatten.map (·.result) := by
  induction ended with
  | nil => rfl
  | cons _ _ ih =>
      rw [List.zipWith_cons_cons, List.flatMap_cons, ih, results_recordOf, List.flatten_cons,
        List.map_append]

theorem EndsWith.results_eq {kept : KeptRow} {ends : RowEnds} (ended : kept.EndsWith ends) :
    kept.results ends = ends.inOrder.map (·.result) := by
  rw [results, replayedRecords, flatMap_results_recordOf _ ended.replayed, ownRecord,
    results_recordOf, RowEnds.inOrder, List.map_append]

theorem flatMap_results_eq {rows : List KeptRow} {ends : List RowEnds}
    (ended : List.Forall₂ EndsWith rows ends) :
    (ends.flatMap RowEnds.inOrder).map (·.result) = (List.zipWith results rows ends).flatten := by
  induction ended with
  | nil => rfl
  | cons here _ ih =>
      rw [List.flatMap_cons, List.map_append, ih, List.zipWith_cons_cons, List.flatten_cons,
        here.results_eq]

end KeptRow

namespace Dispatcher

variable {dispatcher : Dispatcher}

theorem backgroundMoves_eq (background : Option Scenario) :
    Scenario.backgroundMoves background =
      (Scenario.outlineRows background.toList).flatMap fun row =>
        row.1.rowMoves ⟨true, true⟩ [] row.2 := by
  cases background with
  | none => rfl
  | some background =>
      change background.rows.flatMap (background.rowMoves ⟨true, true⟩ []) = _
      simp [Scenario.outlineRows, List.flatMap_map]

theorem flatten_zipWith_singleton {α β γ : Type} (make : α → β → γ) (first : List α)
    (second : List β) :
    (List.zipWith (fun left right => [make left right]) first second).flatten =
      List.zipWith make first second := by
  induction first generalizing second with
  | nil => rfl
  | cons left rest ih =>
      cases second with
      | nil => rfl
      | cons right others =>
          rw [List.zipWith_cons_cons, List.flatten_cons, ih, List.zipWith_cons_cons]
          rfl

theorem exists_leaves_background (position : Nat) {background : Option Scenario}
    {standing : Standing} {results : List Result}
    (returns : (dispatcher.walk (Scenario.backgroundMoves background) standing).outcome =
      .ok results) :
    ∃ replayed, List.Forall₂ (fun row own => StepEnd.Of row.1.steps own)
        (Scenario.outlineRows background.toList) replayed ∧
      (dispatcher.walk (Scenario.backgroundMoves background) standing).events.Leaves position
        replayed.flatten (List.zipWith (Scenario.recordOf position)
          (Scenario.outlineRows background.toList) replayed) := by
  rw [backgroundMoves_eq] at returns ⊢
  -- Nothing comes ahead of the steps of a replayed row.
  have each (row : Scenario × Record) (begun : Standing) (own : List Result)
      (walked : (dispatcher.walk (row.1.rowMoves ⟨true, true⟩ [] row.2) begun).outcome = .ok own) :
      ∃ ends, StepEnd.Of row.1.steps ends ∧
        (dispatcher.walk (row.1.rowMoves ⟨true, true⟩ [] row.2) begun).events.Leaves position
          ends [Scenario.recordOf position row ends] :=
    exists_leaves_row walked Journal.leaves_nil
  obtain ⟨replayed, ended, leaves⟩ := exists_leaves_flatMap each returns
  rw [flatten_zipWith_singleton] at leaves
  exact ⟨replayed, ended, by simpa using leaves⟩

theorem exists_leaves_keptRow (position : Nat) (background : Option Scenario)
    (row : Scenario × Record) (standing : Standing) (results : List Result)
    (returns : (dispatcher.walk (Scenario.outlineMoves background row) standing).outcome =
      .ok results) :
    ∃ ends, KeptRow.EndsWith ⟨position, background, row⟩ ends ∧
      (dispatcher.walk (Scenario.outlineMoves background row) standing).events.Leaves position
        ends.inOrder (KeptRow.records ⟨position, background, row⟩ ends) := by
  obtain ⟨_, _, _, ahead, -, -⟩ := walk_rowMoves_returns returns
  obtain ⟨replayed, ended, leaves⟩ := exists_leaves_background position ahead
  obtain ⟨own, ownEnded, ownLeaves⟩ := exists_leaves_row returns leaves
  exact ⟨⟨replayed, own⟩, ⟨ended, ownEnded⟩, ownLeaves⟩

end Dispatcher

/-- An execution of a feature: what it is executed with, and which of its scenarios. -/
structure Execution where
  dispatcher : Dispatcher
  selection : Selection
  feature : Feature

namespace Execution

/-- Executes a feature for an observer: the outcome, and the observer afterwards. -/
def run (execution : Execution) (observer : Observer) : Except Abort (List Result) × Observer :=
  let ran := (execution.dispatcher.runFeature execution.selection execution.feature).run
    ⟨observer, [], [], .idle⟩
  (ran.1, ran.2.observer)

/-- Executes features one after the other for the same observer, also after one ended early. -/
def runAll : List Execution → Observer → List (Except Abort (List Result)) × Observer
  | [], observer => ([], observer)
  | execution :: rest, observer =>
    let ran := execution.run observer
    let others := runAll rest ran.2
    (ran.1 :: others.1, others.2)

/-- The rows that an execution keeps, for a report that has so many features before it. -/
def keptRows (execution : Execution) (position : Nat) : List KeptRow :=
  (Scenario.outlineRows (execution.selection.apply execution.feature)).map fun row =>
    ⟨position, execution.feature.background, row⟩

/-- The rows that executions keep, the features counted from `position` on. -/
def allKeptRows (position : Nat) (executions : List Execution) : List KeptRow :=
  (executions.zipIdx position).flatMap fun entry => entry.1.keptRows entry.2

def passage (execution : Execution) : Passage (List Result) :=
  execution.dispatcher.featurePassage execution.selection execution.feature ⟨[], [], .idle⟩

theorem exists_told_run (execution : Execution) (observer : Observer) :
    ∃ final : Observer,
      final.journal.events = observer.journal.events ++ execution.passage.events ∧
      observer.listener.toldAll? execution.passage.events.callbacks = some final.listener ∧
      execution.run observer = (execution.passage.outcome, final) := by
  obtain ⟨final, grown, told, runs⟩ := execution.dispatcher.exists_told_runFeature
    execution.selection execution.feature ⟨observer, [], [], .idle⟩
  refine ⟨final, grown, told, ?_⟩
  rw [run, runs]
  rfl

/-- What the listener of an observer was told, from the beginning on, is what the journal says. -/
theorem told_runAll (executions : List Execution) (start : Listener) (observer : Observer)
    (told : start.toldAll? observer.journal.callbacks = some observer.listener) :
    start.toldAll? (runAll executions observer).2.journal.callbacks =
      some (runAll executions observer).2.listener := by
  induction executions generalizing observer with
  | nil => exact told
  | cons execution rest ih =>
      obtain ⟨final, grown, hears, runs⟩ := execution.exists_told_run observer
      rw [runAll, runs]
      apply ih
      rw [← Journal.callbacks_events, grown, Journal.callbacks_append, Journal.callbacks_events,
        Listener.toldAll?_append, told]
      exact hears

theorem exists_leaves_featureWalk (execution : Execution) (position : Nat)
    {results : List Result} (returns : execution.passage.outcome = .ok results) :
    ∃ ends, List.Forall₂ KeptRow.EndsWith (execution.keptRows position) ends ∧
      (execution.dispatcher.featureWalk execution.selection execution.feature
        ⟨[], [], .idle⟩).events.Leaves position (ends.flatMap RowEnds.inOrder)
          (List.zipWith KeptRow.records (execution.keptRows position) ends).flatten := by
  rw [passage, Dispatcher.outcome_featurePassage] at returns
  obtain ⟨ends, ended, leaves⟩ := Dispatcher.exists_leaves_flatMap
    (Dispatcher.exists_leaves_keptRow position execution.feature.background) returns
  refine ⟨ends, List.forall₂_map_left_iff.mpr ended, ?_⟩
  rw [keptRows, List.zipWith_map_left]
  exact leaves

/-- A report that is told of an execution that returns has the feature, its records and its results
in addition afterwards. -/
theorem exists_toldAll?_passage (execution : Execution) (position : Nat) {results : List Result}
    (returns : execution.passage.outcome = .ok results) :
    ∃ ends, List.Forall₂ KeptRow.EndsWith (execution.keptRows position) ends ∧
      execution.passage.events.stepEnds = ends.flatMap RowEnds.inOrder ∧
      ∀ report : Report, report.features.length = position →
        report.toldAll? execution.passage.events.callbacks = some
          ({ report with features := report.features ++ [execution.feature.name] }.adding
            (List.zipWith KeptRow.records (execution.keptRows position) ends).flatten
            (List.zipWith KeptRow.results (execution.keptRows position) ends).flatten) := by
  obtain ⟨ends, ended, leaves⟩ := execution.exists_leaves_featureWalk position returns
  have walked := returns
  rw [passage, Dispatcher.outcome_featurePassage] at walked
  refine ⟨ends, ended, ?_, ?_⟩
  · rw [passage, Dispatcher.featurePassage_of_ok walked, ← leaves.stepEnds_eq,
      ← List.singleton_append, Journal.stepEnds_append, Journal.stepEnds_append,
      Journal.stepEnds_callback rfl, Journal.stepEnds_callback rfl, List.nil_append,
      List.append_nil]
  · rintro report rfl
    have inside := leaves.told { report with
      features := report.features ++ [execution.feature.name] } List.length_append
    rw [passage, Dispatcher.featurePassage_of_ok walked, Journal.callbacks_cons,
      Report.toldAll?_cons, Report.told?, Option.bind_some, Journal.callbacks_append,
      Report.toldAll?_append, inside, Option.bind_some, KeptRow.flatMap_results_eq ended]
    rfl

theorem allKeptRows_cons (position : Nat) (execution : Execution) (rest : List Execution) :
    allKeptRows position (execution :: rest) =
      execution.keptRows position ++ allKeptRows (position + 1) rest := by
  rw [allKeptRows, List.zipIdx_cons, List.flatMap_cons]
  rfl

/-- A report of executions that all return has their features, the records of the rows they keep,
and their results in addition afterwards. -/
theorem exists_reported (executions : List Execution) (observer : Observer) {report : Report}
    {position : Nat} (listens : observer.listener = .reporting report)
    (counted : report.features.length = position)
    (returned : ∀ outcome ∈ (runAll executions observer).1, ∃ results, outcome = .ok results) :
    ∃ ends, List.Forall₂ KeptRow.EndsWith (allKeptRows position executions) ends ∧
      (runAll executions observer).2.journal.stepEnds =
        observer.journal.stepEnds ++ ends.flatMap RowEnds.inOrder ∧
      (runAll executions observer).2.listener = .reporting
        ({ report with
            features := report.features ++ executions.map (Feature.name ∘ feature) }.adding
          (List.zipWith KeptRow.records (allKeptRows position executions) ends).flatten
          (List.zipWith KeptRow.results (allKeptRows position executions) ends).flatten) := by
  -- After each execution the report has one feature more, so that the position moves on.
  induction executions generalizing observer report position with
  | nil =>
      refine ⟨[], .nil, (List.append_nil _).symm, ?_⟩
      rw [runAll, listens]
      simp [allKeptRows]
  | cons execution rest ih =>
      obtain ⟨between, grown, hears, runs⟩ := execution.exists_told_run observer
      rw [runAll, runs] at returned ⊢
      obtain ⟨⟨results, returns⟩, others⟩ := List.forall_mem_cons.mp returned
      obtain ⟨ends, ended, told, holds⟩ := execution.exists_toldAll?_passage position returns
      rw [listens, Listener.toldAll?_reporting, holds report counted] at hears
      have oneMore : (report.features ++ [execution.feature.name]).length = position + 1 := by
        rw [List.length_append, counted]
        rfl
      obtain ⟨later, endedLater, toldLater, holdsLater⟩ :=
        ih between (Option.some.inj hears).symm oneMore others
      refine ⟨ends ++ later, ?_, ?_, ?_⟩
      · rw [allKeptRows_cons]
        exact List.rel_append ended endedLater
      · rw [toldLater, ← Journal.stepEnds_events, grown, Journal.stepEnds_append, told,
          Journal.stepEnds_events, List.flatMap_append, List.append_assoc]
      · rw [holdsLater, allKeptRows_cons, List.zipWith_append ended.length_eq,
          List.zipWith_append ended.length_eq]
        simp [Report.adding]

end Execution

/-- A report holds the rows that executions keep.  It has their features, nothing is open, each row
is there with its own record and those of its background, and the results are, row by row, those of
the background and then those of the row itself.  The records have the steps of their rows in
order, as they ended according to the journal. -/
structure Report.HoldsRows (report : Report) (executions : List Execution) (journal : Journal)
    (ends : List RowEnds) : Prop where
  features : report.features = executions.map (Feature.name ∘ Execution.feature)
  closed : report.opened = []
  ended : List.Forall₂ KeptRow.EndsWith (Execution.allKeptRows 0 executions) ends
  journaled : journal.stepEnds = ends.flatMap RowEnds.inOrder
  records : report.records =
    (List.zipWith KeptRow.records (Execution.allKeptRows 0 executions) ends).flatten
  results : report.results =
    (List.zipWith KeptRow.results (Execution.allKeptRows 0 executions) ends).flatten

/-- The views of a report agree after any of the callbacks that it was told. -/
theorem Report.exists_viewsAgree {final : Report} {callbacks told : List Callback}
    (all : Report.empty.toldAll? callbacks = some final) (earlier : told <+: callbacks) :
    ∃ report, Report.empty.toldAll? told = some report ∧ report.ViewsAgree := by
  obtain ⟨rest, rfl⟩ := earlier
  rw [toldAll?_append] at all
  obtain ⟨report, hears, -⟩ := Option.bind_eq_some_iff.mp all
  exact ⟨report, hears, (empty_sound.toldAll? hears).viewsAgree⟩

/-- The results of a report grow by what a scenario returns that is run for it directly. -/
theorem Dispatcher.exists_report_runScenario (dispatcher : Dispatcher) (sharing : RowSharing)
    (background : Option Scenario) (scenario : Scenario) {state : RunState} {report : Report}
    {results : List Result} (listens : state.observer.listener = .reporting report)
    (returns : ((dispatcher.runScenario sharing background scenario).run state).1 =
      .ok results) :
    ∃ after, ((dispatcher.runScenario sharing background scenario).run state).2.observer.listener =
        .reporting after ∧
      after.results = report.results ++ results := by
  rw [runScenario_eq] at returns ⊢
  -- A report that refused one of the callbacks would have ended the run.
  obtain ⟨observer, -, hears, walked, runs⟩ :=
    (dispatcher.runMoves_follows _ state).exists_told_of_ok returns
  rw [listens, Listener.toldAll?_reporting] at hears
  obtain ⟨after, told, listener⟩ := Option.map_eq_some_iff.mp hears
  refine ⟨after, ?_, ?_⟩
  · rw [runs]
    exact listener.symm
  · rw [Report.results_toldAll? told]
    exact congrArg (report.results ++ ·) (map_result_stepEnds_walk walked)

namespace Execution

/-- The views of a report agree.

After every callback of executions for one report, whether or not some of them end early, the
views of the report agree.  If all of them return, the report holds the rows that they keep.  A
scenario that is run directly adds to the results of a report exactly what it returns. -/
theorem runAll_reported :
    (∀ executions : List Execution, ∃ report,
      (runAll executions (.start (.reporting .empty))).2.listener = .reporting report ∧
      Report.empty.toldAll?
        (runAll executions (.start (.reporting .empty))).2.journal.callbacks = some report ∧
      (∀ told, told <+: (runAll executions (.start (.reporting .empty))).2.journal.callbacks →
        ∃ earlier, Report.empty.toldAll? told = some earlier ∧ earlier.ViewsAgree) ∧
      ((∀ outcome ∈ (runAll executions (.start (.reporting .empty))).1,
          ∃ results, outcome = .ok results) →
        ∃ ends, report.HoldsRows executions
          (runAll executions (.start (.reporting .empty))).2.journal ends)) ∧
    (∀ (dispatcher : Dispatcher) (sharing : RowSharing) (background : Option Scenario)
      (scenario : Scenario) (state : RunState) (report : Report) (results : List Result),
      state.observer.listener = .reporting report →
      ((dispatcher.runScenario sharing background scenario).run state).1 = .ok results →
      ∃ after,
        ((dispatcher.runScenario sharing background scenario).run state).2.observer.listener =
          .reporting after ∧
        after.results = report.results ++ results) := by
  constructor
  · intro executions
    have all := told_runAll executions (.reporting .empty) (.start (.reporting .empty)) rfl
    rw [Listener.toldAll?_reporting] at all
    obtain ⟨report, hears, listener⟩ := Option.map_eq_some_iff.mp all
    refine ⟨report, listener.symm, hears, fun told => Report.exists_viewsAgree hears, ?_⟩
    intro returned
    obtain ⟨ends, ended, journaled, holds⟩ :=
      exists_reported executions (.start (.reporting .empty)) rfl rfl returned
    obtain rfl : report = _ := Listener.reporting.inj (listener.trans holds)
    exact ⟨ends, List.nil_append _, rfl, ended, journaled, List.nil_append _, List.nil_append _⟩
  · intro dispatcher sharing background scenario state report results listens returns
    exact dispatcher.exists_report_runScenario sharing background scenario listens returns

/-- A feature with a background is executed twice for one report, the second time with no
definitions at all.  In its second row a placeholder has no value.  Afterwards its outline is run
once more, directly and without the background. -/
theorem runAll_reported_background :
    let passing : Action := ⟨.either, .done⟩
    let defined : Dispatcher := ⟨⟨[([], [⟨[], ⟨[], ⟨false, false, false⟩, .sequence [], 0⟩,
      passing⟩])]⟩, false⟩
    let filled : Step := ⟨[], "<n>".toList, .null, .null⟩
    let background : Scenario := ⟨[], [⟨[], [], .null, .null⟩], [], true, []⟩
    let outline : Scenario := ⟨[], [filled, filled], [[(['n'], .null)], []], false, []⟩
    let feature : Feature := ⟨[], [outline], some background, []⟩
    let executions : List Execution :=
      [⟨defined, .everything, feature⟩, ⟨⟨.empty, false⟩, .everything, feature⟩]
    let ran := runAll executions (.start (.reporting .empty))
    let direct := (defined.runScenario ⟨false, false⟩ none outline).run ⟨ran.2, [], [], .idle⟩
    ∃ report ends results after,
      ran.2.listener = .reporting report ∧
      report.HoldsRows executions ran.2.journal ends ∧
      report.records.map (fun record => record.results.map Result.status) =
        [[.passing, .passing], [.passing], [.failing, .pending], [.passing],
          [.pending, .pending], [.undefined], [.pending, .pending], [.undefined]] ∧
      direct.1 = .ok results ∧
      results.map Result.status = [.passing, .passing, .failing, .pending] ∧
      direct.2.observer.listener = .reporting after ∧
      after.results = report.results ++ results := by
  intro passing defined filled background outline feature executions ran direct
  obtain ⟨report, listens, -, -, holds⟩ := runAll_reported.1 executions
  have all : ran.1.all (·.toOption.isSome) = true := by
    decide +kernel
  have returned : ∀ outcome ∈ ran.1, ∃ results, outcome = .ok results := by
    intro outcome among
    have returns := List.all_eq_true.mp all outcome among
    cases outcome with
    | error abort => cases returns
    | ok results => exact ⟨results, rfl⟩
  obtain ⟨ends, holds⟩ := holds returned
  have recorded : ran.2.report.records.map (fun record => record.results.map Result.status) =
      [[.passing, .passing], [.passing], [.failing, .pending], [.passing],
        [.pending, .pending], [.undefined], [.pending, .pending], [.undefined]] := by
    decide +kernel
  have statuses : direct.1.toOption.map (·.map Result.status) =
      some [.passing, .passing, .failing, .pending] := by
    decide +kernel
  have sameReport : ran.2.report = report := by
    unfold Observer.report
    rw [listens]
  rw [sameReport] at recorded
  obtain ⟨results, returns, known⟩ := exists_results_of_statuses statuses
  obtain ⟨after, hears, grown⟩ := runAll_reported.2 defined ⟨false, false⟩ none outline
    ⟨ran.2, [], [], .idle⟩ report results listens returns
  exact ⟨report, ends, results, after, listens, holds, recorded, returns, known, hears, grown⟩

end Execution

end FeatureRunner
