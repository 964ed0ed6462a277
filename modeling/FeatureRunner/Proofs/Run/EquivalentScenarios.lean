import FeatureRunner.Proofs.Run.Likeness
import FeatureRunner.Proofs.Template.Expansion

/-!
# Scenarios that run alike

A background without data rows may be written into the scenario: its steps in front of the
scenario's own do the same as its replay, if they have no placeholders.  A data row may be written
into the steps: a scenario with the placeholders of one row filled in, and everything escaped that
would be read as a placeholder again, does the same as the scenario with that row, if no action
looks at the step text as it was written.

Doing the same means the same outcome, the same stashes, and the same steps and invocations with
the same contexts and results, whether the run returns or not and whoever observes it.
-/

namespace FeatureRunner

namespace Scenario

/-- The scenario with the steps of a background in front of its own. -/
def inlining (scenario background : Scenario) : Scenario :=
  { scenario with steps := background.steps ++ scenario.steps }

/-- The scenario without data rows whose steps are those of a row, written out. -/
def writtenOut (scenario : Scenario) (row : Record) : Scenario :=
  { scenario with
    data := []
    steps := scenario.steps.map fun step =>
      { step with text := Template.escape (step.shownText row) } }

end Scenario

namespace Dispatcher

variable (dispatcher : Dispatcher)

theorem stepCourse_of_filled {step : Step} {row : Record} {text : Text}
    (filled : Template.expand step.text row = .ok text) (standing : Standing) :
    dispatcher.stepCourse row step standing =
      dispatcher.courseOf standing.shortCircuit.armed
        (.build step text standing.featureStash standing.scenarioStash) := by
  unfold stepCourse
  rw [filled]

theorem stepCourse_of_empty {step : Step} {text : Text}
    (filled : Template.expand step.text [] = .ok text) (row : Record) (standing : Standing) :
    dispatcher.stepCourse [] step standing = dispatcher.stepCourse row step standing := by
  rw [dispatcher.stepCourse_of_filled filled,
    dispatcher.stepCourse_of_filled (Template.expand_of_empty filled row)]

theorem passage_step_of_empty {step : Step} {text : Text}
    (filled : Template.expand step.text [] = .ok text) (row : Record) (standing : Standing) :
    dispatcher.passage (.step [] step) standing = dispatcher.passage (.step row step) standing := by
  have sameObstacle : step.obstacle? [] = step.obstacle? row := by
    rw [Step.obstacle?_of_filled filled,
      Step.obstacle?_of_filled (Template.expand_of_empty filled row)]
  simp only [passage, obstacle?, readyPassage, stepPassage, sameObstacle,
    dispatcher.stepCourse_of_empty filled row]

theorem steps_alike_of_empty {steps : List Step}
    (filled : ∀ step ∈ steps, ∃ text, Template.expand step.text [] = .ok text) (row : Record) :
    dispatcher.Alike id Eq (steps.map (.step [])) (steps.map (.step row)) := by
  apply alike_of_forall₂
  rw [List.forall₂_map_left_iff, List.forall₂_map_right_iff, List.forall₂_same]
  rintro step member standing _ rfl
  obtain ⟨text, fills⟩ := filled step member
  rw [dispatcher.passage_step_of_empty fills row]
  exact ⟨rfl, rfl, rfl⟩

/-- The replay of a background without data rows is alike its steps run for any row. -/
theorem background_alike {background : Scenario} (plain : background.data = [])
    (filled : ∀ step ∈ background.steps, ∃ text, Template.expand step.text [] = .ok text)
    (row : Record) :
    dispatcher.Alike id Eq (Scenario.backgroundMoves (some background))
      (background.steps.map (.step row)) := by
  have moves : Scenario.backgroundMoves (some background) =
      [.openRow ⟨true, true⟩ background []] ++
        (background.steps.map (.step []) ++ [.closeRow background []]) := by
    simp [Scenario.backgroundMoves, Scenario.rows, Scenario.rowMoves, plain]
  -- The background shares all that its row has, so that only its steps make a difference.
  have opening : dispatcher.Alike id Eq [.openRow ⟨true, true⟩ background []] [] :=
    openRow_alike_nil dispatcher.noticeFlaw?_empty background
  have closing : dispatcher.Alike id Eq [.closeRow background []] [] :=
    closeRow_alike_nil background []
  have steps := dispatcher.steps_alike_of_empty filled row
  rw [moves]
  simpa using opening.append (steps.append closing)

/-- A background is equivalent to its steps.  Executing a scenario with a background that has no
data rows and whose texts the empty row can fill, and executing the scenario with the steps of the
background in front of its own, have the same outcome, leave the same stashes, and tell of the
same steps and invocations. -/
theorem runScenario_inlining (sharing : RowSharing) (background scenario : Scenario)
    (state : RunState) (plain : background.data = [])
    (filled : ∀ step ∈ background.steps, ∃ text, Template.expand step.text [] = .ok text) :
    let replayed := (dispatcher.runScenario sharing (some background) scenario).run state
    let inlined := (dispatcher.runScenario sharing none (scenario.inlining background)).run state
    replayed.1 = inlined.1 ∧ replayed.2.standing = inlined.2.standing ∧
      replayed.2.observer.journal.stepsSeen id = inlined.2.observer.journal.stepsSeen id := by
  have sameRows : (scenario.inlining background).rows = scenario.rows := rfl
  apply runScenario_alike (by rw [sameRows])
  refine Alike.flatMap (fun row => ?_) scenario.rows
  refine rowMoves_alike rfl ?_ sharing
  have own : dispatcher.Alike id Eq (scenario.steps.map (.step row))
      (scenario.steps.map (.step row)) := alike_refl _
  have whole := (dispatcher.background_alike plain filled row).append own
  rw [← List.map_append] at whole
  exact whole

/-- The background passes a step with an escaped bracket and stops at one that is not defined, so
that the own step of either row is skipped. -/
theorem runScenario_inlining_undefined :
    let known : Step := ⟨[], "\\<".toList, .null, .null⟩
    let unknown : Step := ⟨['x'], [], .null, .null⟩
    let dispatcher : Dispatcher := ⟨⟨[([], [⟨[], ⟨[], ⟨false, false, false⟩, .sequence [], 0⟩,
      ⟨.either, .done⟩⟩])]⟩, false⟩
    let background : Scenario := ⟨[], [known, unknown], [], true, []⟩
    let scenario : Scenario := ⟨[], [known], [[(['n'], .null)], []], false, []⟩
    let state : RunState := ⟨.start .silent, [], [], .idle⟩
    let replayed := (dispatcher.runScenario ⟨false, false⟩ (some background) scenario).run state
    let inlined :=
      (dispatcher.runScenario ⟨false, false⟩ none (scenario.inlining background)).run state
    replayed.1.toOption.map (·.map Result.status) =
        some [.passing, .undefined, .pending, .passing, .undefined, .pending] ∧
      replayed.1 = inlined.1 ∧ replayed.2.standing = inlined.2.standing ∧
      replayed.2.observer.journal.stepsSeen id = inlined.2.observer.journal.stepsSeen id := by
  intro known unknown dispatcher background scenario state replayed inlined
  have filled : ∀ step ∈ background.steps, ∃ text, Template.expand step.text [] = .ok text := by
    intro step member
    simp only [background, List.mem_cons, List.not_mem_nil, or_false] at member
    rcases member with rfl | rfl
    · exact ⟨['<'], by decide +kernel⟩
    · exact ⟨[], by decide +kernel⟩
  refine ⟨by decide +kernel, ?_⟩
  exact dispatcher.runScenario_inlining ⟨false, false⟩ background scenario state rfl filled

variable {dispatcher}

/-- A step that a row can fill takes the course of the step with the text written out, if no
action looks at the text as it was written. -/
theorem stepCourse_writtenOut (avoids : dispatcher.Avoids ActionOp.readsStepText) {step : Step}
    {row : Record} {text : Text} (filled : Template.expand step.text row = .ok text)
    (standing : Standing) :
    dispatcher.stepCourse [] { step with text := Template.escape text } standing =
      (dispatcher.stepCourse row step standing).map (.withStepText (Template.escape text)) := by
  rw [dispatcher.stepCourse_of_filled filled,
    dispatcher.stepCourse_of_filled (Template.expand_escape text [])]
  exact (ContextChange.stepText_hidden (Template.escape text)).courseOf_change avoids
    standing.shortCircuit.armed (.build step text standing.featureStash standing.scenarioStash)

theorem steps_alike_writtenOut (avoids : dispatcher.Avoids ActionOp.readsStepText)
    {steps : List Step} {row : Record}
    (filled : ∀ step ∈ steps, ∃ text, Template.expand step.text row = .ok text) :
    dispatcher.Alike (.withStepText []) Eq (steps.map (.step row))
      ((steps.map fun step =>
        { step with text := Template.escape (step.shownText row) }).map (.step [])) := by
  apply alike_of_forall₂
  rw [List.map_map, List.forall₂_map_left_iff, List.forall₂_map_right_iff, List.forall₂_same]
  rintro step member standing _ rfl
  obtain ⟨text, fills⟩ := filled step member
  have shown : step.shownText row = text := by
    unfold Step.shownText
    rw [fills]
  have course := stepCourse_writtenOut avoids fills standing
  have obstacles : Step.obstacle? [] { step with text := Template.escape text } =
      step.obstacle? row := by
    rw [Step.obstacle?_of_filled fills, Step.obstacle?_of_filled (Template.expand_escape text [])]
    rfl
  simp only [Function.comp, shown]
  refine passage_step_alike rfl obstacles course (fun _ => rfl) ?_ ?_
  · rw [course]
    rfl
  · rintro first _ rfl result
    rfl

/-- An outline row is equivalent to the scenario written out by hand.  Executing a scenario with a
row that can fill all its step texts, and executing, without data rows, the scenario with the
texts filled in and escaped, have the same outcome, leave the same stashes, and tell of the same
steps and invocations, apart from the step text as it was written.  Where the notice about the row
has to be put into words and a value that no text asks for cannot be shown, the run ends in front of
the row. -/
theorem runScenario_writtenOut (avoids : dispatcher.Avoids ActionOp.readsStepText)
    (sharing : RowSharing) (background : Option Scenario) (scenario : Scenario) (row : Record)
    (state : RunState)
    (filled : ∀ step ∈ scenario.steps, ∃ text, Template.expand step.text row = .ok text) :
    let outlined := (dispatcher.runScenario sharing background (scenario.only row)).run state
    let written := (dispatcher.runScenario sharing background (scenario.writtenOut row)).run state
    match dispatcher.noticeFlaw? (.record row) with
    | some flaw => outlined = (.error (.exit (.ofShowFlaw flaw)), state)
    | none =>
      outlined.1 = written.1 ∧ outlined.2.standing = written.2.standing ∧
        outlined.2.observer.journal.stepsSeen (.withStepText []) =
          written.2.observer.journal.stepsSeen (.withStepText []) := by
  have outlinedRows : (scenario.only row).rows = [row] := rfl
  have writtenRows : (scenario.writtenOut row).rows = [[]] := rfl
  cases noticed : dispatcher.noticeFlaw? (.record row) with
  | some flaw =>
      exact dispatcher.run_runScenario_of_flaw outlinedRows noticed sharing background state
  | none =>
      have notices := noticed.trans dispatcher.noticeFlaw?_empty.symm
      apply runScenario_alike
      · rw [outlinedRows, writtenRows, List.map_singleton, List.map_singleton, notices]
      · rw [Scenario.moves, Scenario.moves, outlinedRows, writtenRows, List.flatMap_singleton,
          List.flatMap_singleton]
        refine rowMoves_alike notices ?_ sharing
        exact (alike_refl _).append (steps_alike_writtenOut avoids filled)

/-- The value of the row looks like a placeholder itself and ends in a backslash. -/
theorem runScenario_writtenOut_placeholder :
    let reading : Action := ⟨.either, .perform .text fun _ => .done⟩
    let dispatcher : Dispatcher := ⟨⟨[([], [⟨[], ⟨[], ⟨false, false, false⟩, .sequence [], 0⟩,
      reading⟩])]⟩, false⟩
    let step : Step := ⟨[], "<n>".toList, .null, .null⟩
    let scenario : Scenario := ⟨[], [step], [], false, []⟩
    let row : Record := [(['n'], .text "<n>\\".toList)]
    let state : RunState := ⟨.start .silent, [], [], .idle⟩
    let outlined := (dispatcher.runScenario ⟨false, false⟩ none (scenario.only row)).run state
    let written := (dispatcher.runScenario ⟨false, false⟩ none (scenario.writtenOut row)).run state
    (scenario.writtenOut row).steps.map Step.text = ["\\<n>\\\\".toList] ∧
      outlined.1.toOption.map (·.map Result.status) = some [.passing] ∧
      outlined.1 = written.1 ∧ outlined.2.standing = written.2.standing ∧
      outlined.2.observer.journal.stepsSeen (.withStepText []) =
        written.2.observer.journal.stepsSeen (.withStepText []) := by
  intro reading dispatcher step scenario row state outlined written
  have avoids : dispatcher.Avoids ActionOp.readsStepText := by
    refine avoids_of_definition ?_ []
    exact fun _ _ => ⟨rfl, trivial⟩
  have filled : ∀ own ∈ scenario.steps, ∃ text, Template.expand own.text row = .ok text := by
    intro own member
    rw [List.mem_singleton] at member
    rw [member]
    exact ⟨"<n>\\".toList, by decide +kernel⟩
  refine ⟨by decide +kernel, by decide +kernel, ?_⟩
  exact runScenario_writtenOut avoids ⟨false, false⟩ none scenario row state filled

end Dispatcher

end FeatureRunner
