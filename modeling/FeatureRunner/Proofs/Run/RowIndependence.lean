import FeatureRunner.Proofs.Run.Likeness
import FeatureRunner.Proofs.Run.Turns
import Mathlib.Data.List.Perm.Basic

/-!
# Rows do not depend on each other

Rows share nothing but the feature stash: every row begins with an empty scenario stash and an
idle short circuit.  If no action touches the feature stash, what comes of a row is the same
wherever it stands, and the same as if it were executed alone.

This file proves that the results of a feature are put together from the results of its rows
alone, and that reordering or leaving out scenarios and rows moves or drops these blocks and
changes nothing inside them.
-/

namespace FeatureRunner

namespace Scenario

/-- The rows of scenarios in order, each as a scenario with this row alone. -/
def solos (scenarios : List Scenario) : List Scenario :=
  scenarios.flatMap fun scenario => scenario.rows.map scenario.only

/-- A scenario with its rows in another order. -/
def RowsReordered (scenario other : Scenario) : Prop :=
  other = { scenario with data := other.data } ∧ other.data.Perm scenario.data

/-- Scenarios in another order, and the rows of each in another order. -/
def Reordered (scenarios others : List Scenario) : Prop :=
  ∃ between, List.Forall₂ RowsReordered scenarios between ∧ between.Perm others

theorem solos_eq (scenarios : List Scenario) :
    solos scenarios = (outlineRows scenarios).map fun row => row.1.only row.2 := by
  rw [outlineRows, List.map_flatMap]
  simp only [List.map_map]
  rfl

theorem RowsReordered.perm {scenario other : Scenario} (reordered : scenario.RowsReordered other) :
    (other.rows.map other.only).Perm (scenario.rows.map scenario.only) := by
  obtain ⟨same, moved⟩ := reordered
  have sameOnly : other.only = scenario.only := by
    funext row
    rw [same]
    rfl
  have rows : other.rows.Perm scenario.rows := by
    unfold rows
    rcases none : scenario.data with _ | ⟨row, rest⟩
    · rw [none, List.perm_nil] at moved
      rw [moved]
    · rw [none] at moved
      have some : other.data ≠ [] := by
        intro empty
        rw [empty] at moved
        exact List.cons_ne_nil _ _ (List.nil_perm.mp moved)
      rw [if_neg some, if_neg (List.cons_ne_nil _ _)]
      exact moved
  rw [sameOnly]
  exact rows.map scenario.only

theorem Reordered.perm_solos {scenarios others : List Scenario}
    (reordered : Reordered scenarios others) : (solos others).Perm (solos scenarios) := by
  obtain ⟨between, each, moved⟩ := reordered
  have inPlace : (solos between).Perm (solos scenarios) := by
    clear moved
    induction each with
    | nil => exact .refl _
    | cons here _ ih =>
        rw [solos, solos, List.flatMap_cons, List.flatMap_cons]
        exact here.perm.append ih
  exact (moved.symm.flatMap_right _).trans inPlace

/-- Whether tags keep a scenario does not depend on the order of its rows. -/
theorem Reordered.filter {scenarios others : List Scenario}
    (reordered : Reordered scenarios others) (spec : TagSpec) :
    Reordered (spec.filter scenarios) (spec.filter others) := by
  obtain ⟨between, each, moved⟩ := reordered
  refine ⟨spec.filter between, ?_, moved.filter _⟩
  refine List.rel_filter ?_ each
  rintro scenario other ⟨same, -⟩
  rw [same]

end Scenario

namespace Selection

/-- Whether a selection goes by the tags of scenarios at most. -/
def ByTags : Selection → Prop
  | everything => True
  | tagged _ => True
  | chosen _ => False

theorem ByTags.reordered {selection : Selection} (byTags : selection.ByTags)
    {feature other : Feature} (tags : other.tags = feature.tags)
    (reordered : Scenario.Reordered feature.scenarios other.scenarios) :
    Scenario.Reordered (selection.apply feature) (selection.apply other) := by
  cases selection with
  | everything => exact reordered
  | tagged spec =>
      unfold apply
      rw [tags]
      exact reordered.filter _
  | chosen choose => cases byTags

end Selection

/-- Where two runs stand is the same for a row if it differs in the feature stash at most. -/
def Standing.SameRow (standing other : Standing) : Prop :=
  standing.scenarioStash = other.scenarioStash ∧ standing.shortCircuit = other.shortCircuit

namespace Dispatcher

variable {dispatcher : Dispatcher}

section SameRow

variable (avoids : dispatcher.Avoids ActionOp.touchesFeatureStash)
include avoids

/-- A step takes the same course for another feature stash, apart from this stash. -/
theorem stepCourse_of_sameRow {standing other : Standing} (same : standing.SameRow other)
    (row : Record) (step : Step) :
    dispatcher.stepCourse row step other =
      (dispatcher.stepCourse row step standing).map (.withFeatureStash other.featureStash) := by
  rcases standing with ⟨feature, scenario, circuit⟩
  rcases other with ⟨otherFeature, otherScenario, otherCircuit⟩
  obtain ⟨rfl, rfl⟩ := same
  let made := ContextChange.featureStash otherFeature
  unfold stepCourse
  cases Template.expand step.text row with
  | ok text =>
      exact (ContextChange.featureStash_hidden otherFeature).courseOf_change avoids circuit.armed
        (.build step text feature scenario)
  | error unresolved =>
      simp only
      split
      · exact made.skipped_change (.build step step.text feature scenario) shortCircuitResult
      · exact made.unprepared_change (.build step step.text feature scenario) unresolved.message

theorem passage_alike_of_sameRow (move : Move) {standing other : Standing}
    (same : standing.SameRow other) :
    (dispatcher.passage move standing).Alike (.withFeatureStash []) Standing.SameRow
      (dispatcher.passage move other) := by
  cases move with
  | openRow sharing scenario row =>
      refine openRow_alike rfl sharing scenario scenario same ?_
      simp only [Standing.SameRow, Standing.enterRow, same.1, same.2, and_self]
  | closeRow scenario row => exact ⟨rfl, same, rfl⟩
  | step row step =>
      have course := stepCourse_of_sameRow avoids same row step
      refine passage_step_alike same rfl course (fun _ => rfl) ?_ ?_
      · rw [course]
        exact ⟨rfl, same.2⟩
      · intro first second close result
        refine ⟨close.1, ?_⟩
        simp only [Standing.noting, close.2]

/-- A row walked alone from anywhere has the outcome that it has from anywhere else. -/
theorem outcome_walk_outlineMoves (background : Option Scenario) (row : Scenario × Record)
    (standing other : Standing) :
    (dispatcher.walk (Scenario.outlineMoves background row) standing).outcome =
      (dispatcher.walk (Scenario.outlineMoves background (row.1.only row.2, row.2))
        other).outcome := by
  cases noticed : dispatcher.noticeFlaw? (.record row.2) with
  | some flaw =>
      simp only [Scenario.outlineMoves, Scenario.rowMoves,
        dispatcher.walk_cons_of_obstacle (obstacle?_openRow_of_flaw noticed _ _), Passage.held]
  | none =>
      have inside (moves : List Move) :
          dispatcher.Alike (.withFeatureStash []) Standing.SameRow moves moves := by
        apply alike_of_forall₂
        rw [List.forall₂_same]
        exact fun move _ _ _ same => passage_alike_of_sameRow avoids move same
      have closing : dispatcher.Alike (.withFeatureStash []) Standing.SameRow
          [.closeRow row.1 row.2] [.closeRow (row.1.only row.2) row.2] :=
        fun _ _ same => ⟨rfl, same, (stepsSeen_rowFinished _ _ _).trans
          (stepsSeen_rowFinished _ _ _).symm⟩
      refine (walk_cons_alike ?_ ((inside _).append ((inside _).append closing))).outcome
      -- A row that is not held up begins with a stash and a short circuit of its own.
      rw [dispatcher.passage_openRow noticed, dispatcher.passage_openRow noticed]
      exact ⟨rfl, ⟨rfl, rfl⟩, by rw [stepsSeen_rowStarted, stepsSeen_rowStarted]⟩

end SameRow

variable (dispatcher)

/-- The outcome of executing one row alone, given as a scenario with only this row. -/
def soloOutcome (background : Option Scenario) (solo : Scenario) : Except Abort (List Result) :=
  (dispatcher.walk ((Scenario.outlineRows [solo]).flatMap (Scenario.outlineMoves background))
    ⟨[], [], .idle⟩).outcome

/-- The results of executing one row alone, if it returns. -/
def soloResults (background : Option Scenario) (solo : Scenario) : List Result :=
  (dispatcher.soloOutcome background solo).toOption.getD []

variable {dispatcher}

theorem walk_append_eq_ok_iff {first second : List Move} {standing : Standing}
    {results : List Result} :
    (dispatcher.walk (first ++ second) standing).outcome = .ok results ↔
      ∃ earlier later, (dispatcher.walk first standing).outcome = .ok earlier ∧
        (dispatcher.walk second (dispatcher.walk first standing).standing).outcome = .ok later ∧
        results = earlier ++ later := by
  constructor
  · exact dispatcher.walk_append_returns
  · rintro ⟨earlier, later, front, back, rfl⟩
    rw [dispatcher.walk_append_of_ok front, back]
    rfl

section Solos

variable (avoids : dispatcher.Avoids ActionOp.touchesFeatureStash)
include avoids

theorem outcome_outlineMoves (background : Option Scenario) (row : Scenario × Record)
    (standing : Standing) :
    (dispatcher.walk (Scenario.outlineMoves background row) standing).outcome =
      dispatcher.soloOutcome background (row.1.only row.2) := by
  have moves : (Scenario.outlineRows [row.1.only row.2]).flatMap
      (Scenario.outlineMoves background) =
        Scenario.outlineMoves background (row.1.only row.2, row.2) :=
    List.append_nil _
  unfold soloOutcome
  rw [moves]
  exact outcome_walk_outlineMoves avoids background row standing _

/-- A walk through rows returns exactly if each of them returns alone, and then its results are
those of the rows alone. -/
theorem walk_rows_eq_ok_iff (background : Option Scenario) (rows : List (Scenario × Record))
    (standing : Standing) (results : List Result) :
    (dispatcher.walk (rows.flatMap (Scenario.outlineMoves background)) standing).outcome =
        .ok results ↔
      (∀ solo ∈ rows.map fun row => row.1.only row.2, dispatcher.soloOutcome background solo =
        .ok (dispatcher.soloResults background solo)) ∧
      results = (rows.map fun row => row.1.only row.2).flatMap
        (dispatcher.soloResults background) := by
  induction rows generalizing standing results with
  | nil =>
      change Except.ok [] = .ok results ↔ _
      simp [eq_comm]
  | cons row rest ih =>
      rw [List.flatMap_cons, walk_append_eq_ok_iff, outcome_outlineMoves avoids]
      simp only [ih, List.map_cons, List.mem_cons, forall_eq_or_imp, List.flatMap_cons]
      constructor
      · rintro ⟨own, _, alone, ⟨others, rfl⟩, rfl⟩
        have ownResults : dispatcher.soloResults background (row.1.only row.2) = own := by
          rw [soloResults, alone]
          rfl
        rw [ownResults]
        exact ⟨⟨alone, others⟩, rfl⟩
      · rintro ⟨⟨alone, others⟩, rfl⟩
        exact ⟨_, _, alone, ⟨others, rfl⟩, rfl⟩

/-- A run of a feature returns exactly if each of its rows returns alone. -/
theorem runFeature_eq_ok_iff (selection : Selection) (feature : Feature) (state : RunState)
    (results : List Result) :
    ((dispatcher.runFeature selection feature).run state).1 = .ok results ↔
      (∀ solo ∈ Scenario.solos (selection.apply feature),
        dispatcher.soloOutcome feature.background solo =
          .ok (dispatcher.soloResults feature.background solo)) ∧
      results = (Scenario.solos (selection.apply feature)).flatMap
        (dispatcher.soloResults feature.background) := by
  obtain ⟨observer, -, runs⟩ := dispatcher.exists_run_runFeature selection feature state
  rw [runs, outcome_featurePassage, Scenario.solos_eq]
  exact walk_rows_eq_ok_iff avoids feature.background
    (Scenario.outlineRows (selection.apply feature)) _ results

end Solos

end Dispatcher

/-- The results of a run of a feature are put together from blocks, one for each row, and these
blocks are what the rows have alone.

Executing a row alone, in any feature with the same background, returns its block.  Executing the
selected scenarios in another order, with the rows of each in another order, returns the same
blocks in the order of the rows; for a selection by tags it is enough that the scenarios of the
feature are reordered.  Selecting fewer of the scenarios, in particular by tags, returns the
blocks of those that are left. -/
structure IndependentRows (dispatcher : Dispatcher) (selection : Selection) (feature : Feature)
    (results : List Result) (block : Scenario → List Result) : Prop where
  concatenated : results = (Scenario.solos (selection.apply feature)).flatMap block
  alone : ∀ solo ∈ Scenario.solos (selection.apply feature),
    ∀ (single : Feature) (state : RunState), single.background = feature.background →
      single.scenarios = [solo] →
        ((dispatcher.runFeature .everything single).run state).1 = .ok (block solo)
  reordered : ∀ (choice : Selection) (other : Feature) (state : RunState),
    other.background = feature.background →
      Scenario.Reordered (selection.apply feature) (choice.apply other) →
        (Scenario.solos (choice.apply other)).Perm (Scenario.solos (selection.apply feature)) ∧
          ((dispatcher.runFeature choice other).run state).1 =
            .ok ((Scenario.solos (choice.apply other)).flatMap block)
  reorderedFeature : selection.ByTags → ∀ other : Feature, other.tags = feature.tags →
    Scenario.Reordered feature.scenarios other.scenarios →
      Scenario.Reordered (selection.apply feature) (selection.apply other)
  narrowed : ∀ (choice : Selection) (state : RunState),
    (∀ scenario ∈ choice.apply feature, scenario ∈ selection.apply feature) →
      ((dispatcher.runFeature choice feature).run state).1 =
        .ok ((Scenario.solos (choice.apply feature)).flatMap block)
  narrowedByTags : selection = .everything → ∀ spec : TagSpec,
    ∀ scenario ∈ (Selection.tagged spec).apply feature, scenario ∈ selection.apply feature

namespace Dispatcher

variable {dispatcher : Dispatcher}

/-- Rows are independent.  If no action touches the feature stash and a run of a feature returns,
its results are put together from what its rows have alone, whatever else is selected and in
whatever order. -/
theorem exists_independentRows (avoids : dispatcher.Avoids ActionOp.touchesFeatureStash)
    (selection : Selection) (feature : Feature) (state : RunState) {results : List Result}
    (returns : ((dispatcher.runFeature selection feature).run state).1 = .ok results) :
    ∃ block, IndependentRows dispatcher selection feature results block := by
  obtain ⟨solo, concatenated⟩ :=
    (runFeature_eq_ok_iff avoids selection feature state results).mp returns
  -- Whatever is executed with the same background and rows of these only returns their blocks.
  have among (choice : Selection) (other : Feature) (otherState : RunState)
      (background : other.background = feature.background)
      (subset : ∀ row ∈ Scenario.solos (choice.apply other),
        row ∈ Scenario.solos (selection.apply feature)) :
      ((dispatcher.runFeature choice other).run otherState).1 =
        .ok ((Scenario.solos (choice.apply other)).flatMap
          (dispatcher.soloResults feature.background)) := by
    rw [runFeature_eq_ok_iff avoids, background]
    exact ⟨fun row member => solo row (subset row member), rfl⟩
  refine ⟨dispatcher.soloResults feature.background, concatenated, ?_, ?_, ?_, ?_, ?_⟩
  · intro row member single other background scenarios
    have own : Scenario.solos (Selection.everything.apply single) = [row] := by
      obtain ⟨scenario, _, ofScenario⟩ := List.mem_flatMap.mp member
      obtain ⟨values, _, rfl⟩ := List.mem_map.mp ofScenario
      rw [Selection.apply, scenarios]
      rfl
    have returned := among .everything single other background (by simpa [own] using member)
    rwa [own, List.flatMap_singleton] at returned
  · intro choice other otherState background reordered
    have moved := reordered.perm_solos
    exact ⟨moved, among choice other otherState background fun _ => moved.mem_iff.mp⟩
  · exact fun byTags other tags => byTags.reordered tags
  · intro choice otherState subset
    refine among choice feature otherState rfl ?_
    intro row member
    obtain ⟨scenario, kept, ofScenario⟩ := List.mem_flatMap.mp member
    exact List.mem_flatMap.mpr ⟨scenario, subset scenario kept, ofScenario⟩
  · rintro rfl spec scenario kept
    exact List.mem_of_mem_filter kept

/-- An action writes to the scenario stash.  The second row of an outline has no value for its
placeholder, so that its step fails; the rows before and after it pass. -/
theorem exists_independentRows_outline :
    let writing : Action :=
      ⟨.either, .perform (.remember .scenario ['k'] .null) fun _ => .done⟩
    let dispatcher : Dispatcher := ⟨⟨[([], [⟨[], ⟨[], ⟨false, false, false⟩, .sequence [], 0⟩,
      writing⟩])]⟩, false⟩
    let filled : Step := ⟨[], "<n>".toList, .null, .null⟩
    let outline : Scenario := ⟨[], [filled], [[(['n'], .null)], []], false, []⟩
    let plain : Scenario := ⟨[], [⟨[], [], .null, .null⟩], [], false, []⟩
    let feature : Feature := ⟨[], [outline, plain], none, []⟩
    let state : RunState := ⟨.start .silent, [], [], .idle⟩
    ∃ results block,
      ((dispatcher.runFeature .everything feature).run state).1 = .ok results ∧
      results.map Result.status = [.passing, .failing, .passing] ∧
      IndependentRows dispatcher .everything feature results block := by
  intro writing dispatcher filled outline plain feature state
  have avoids : dispatcher.Avoids ActionOp.touchesFeatureStash := by
    refine avoids_of_definition ?_ []
    exact fun _ _ => ⟨rfl, trivial⟩
  let ran := (dispatcher.runFeature .everything feature).run state
  have statuses : ran.1.toOption.map (·.map Result.status) =
      some [.passing, .failing, .passing] := by
    decide +kernel
  obtain ⟨results, returns, known⟩ := exists_results_of_statuses statuses
  obtain ⟨block, independent⟩ := exists_independentRows avoids .everything feature state returns
  exact ⟨results, block, returns, known, independent⟩

end Dispatcher

end FeatureRunner
