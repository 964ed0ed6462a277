import FeatureRunner.Proofs.Run.Turns

/-!
# Short-circuited rows

The short circuit of a row decides which of its steps are taken.  As long as every step passes,
the next one is taken; the first one that does not pass is the last one taken, and all later
steps of the row are skipped.  The steps of the background belong to the row in this.

The short circuits of the turns of a row are linked: each turn finds the short circuit that the
result of the turn before has left.  This file proves that linked turns have the shape above, and
cuts every run of a scenario into rows of that shape.
-/

namespace FeatureRunner

/-- The course of a step that is not skipped: it is prepared and dispatched, or reported as not
prepared. -/
def Dispatcher.takenCourse (dispatcher : Dispatcher) (row : Record) (step : Step)
    (featureStash scenarioStash : Record) : StepCourse :=
  match Template.expand step.text row with
  | .ok text => dispatcher.courseOf false (.build step text featureStash scenarioStash)
  | .error unresolved =>
    .unprepared (.build step step.text featureStash scenarioStash) unresolved.message

namespace StepTurn

variable (dispatcher : Dispatcher)

/-- The step is prepared and dispatched, or reported as not prepared. -/
def Taken (turn : StepTurn) : Prop :=
  turn.course dispatcher = dispatcher.takenCourse turn.row turn.step
    turn.standing.featureStash turn.standing.scenarioStash

/-- The step gets the result of a skipped one, and no action is invoked. -/
def Skipped (turn : StepTurn) : Prop :=
  (turn.course dispatcher).outcome =
      .ok ⟨.pending, "1..0 # SKIP Short-circuited from previous tests".toList⟩ ∧
    (turn.course dispatcher).invocation = none

/-- Whether the step passes. -/
def passes (turn : StepTurn) : Bool :=
  match (turn.course dispatcher).outcome with
  | .ok result => result.passed
  | .error _ => false

theorem taken_of_idle {turn : StepTurn} (idle : turn.standing.shortCircuit.armed = false) :
    turn.Taken dispatcher := by
  unfold Taken course Dispatcher.stepCourse Dispatcher.takenCourse
  rw [idle]
  rfl

theorem skipped_of_armed {turn : StepTurn} (armed : turn.standing.shortCircuit.armed = true) :
    turn.Skipped dispatcher := by
  unfold Skipped course Dispatcher.stepCourse
  rw [armed]
  cases Template.expand turn.step.text turn.row <;> exact ⟨rfl, rfl⟩

end StepTurn

/-- The shape of the turns that share a short circuit, armed or not at first.  If it is armed,
all of them are skipped.  Otherwise either all pass, or some pass, the next one does not pass
although it is taken, and the others are skipped. -/
inductive ShortCircuited (dispatcher : Dispatcher) : Bool → List StepTurn → Prop where
  | skipping {skipped : List StepTurn} (skips : ∀ turn ∈ skipped, turn.Skipped dispatcher) :
      ShortCircuited dispatcher true skipped
  | passing {passed : List StepTurn}
      (passes : ∀ turn ∈ passed, turn.Taken dispatcher ∧ turn.passes dispatcher = true) :
      ShortCircuited dispatcher false passed
  | stopping {passed skipped : List StepTurn} {stopped : StepTurn}
      (passes : ∀ turn ∈ passed, turn.Taken dispatcher ∧ turn.passes dispatcher = true)
      (taken : stopped.Taken dispatcher) (stops : stopped.passes dispatcher = false)
      (skips : ∀ turn ∈ skipped, turn.Skipped dispatcher) :
      ShortCircuited dispatcher false (passed ++ stopped :: skipped)

namespace ShortCircuited

variable {dispatcher : Dispatcher}

theorem cons_of_passes {turn : StepTurn} {rest : List StepTurn}
    (taken : turn.Taken dispatcher) (passed : turn.passes dispatcher = true)
    (shaped : ShortCircuited dispatcher false rest) :
    ShortCircuited dispatcher false (turn :: rest) := by
  cases shaped with
  | passing others =>
      refine .passing ?_
      intro other member
      rcases List.mem_cons.mp member with rfl | later
      · exact ⟨taken, passed⟩
      · exact others other later
  | stopping others stoppedTaken stops skips =>
      rw [← List.cons_append]
      refine .stopping ?_ stoppedTaken stops skips
      intro other member
      rcases List.mem_cons.mp member with rfl | later
      · exact ⟨taken, passed⟩
      · exact others other later

/-- After a first turn that does not pass, all others are skipped. -/
theorem skipped_of_stops {turn : StepTurn} {rest : List StepTurn}
    (shaped : ShortCircuited dispatcher false (turn :: rest))
    (stops : turn.passes dispatcher = false) : ∀ other ∈ rest, other.Skipped dispatcher := by
  generalize whole : turn :: rest = turns at shaped
  cases shaped with
  | passing passes =>
      have passed := (passes turn (by simp [← whole])).2
      rw [stops] at passed
      cases passed
  | @stopping passed skipped stopped passes taken stopsThere skips =>
      cases passed with
      | nil =>
          injection whole with _ sameRest
          rw [sameRest]
          exact skips
      | cons first others =>
          injection whole with sameTurn
          have passed := (passes first List.mem_cons_self).2
          rw [← sameTurn, stops] at passed
          cases passed

end ShortCircuited

/-- Turns with results are linked from a short circuit on if the first one finds it, and each
later one finds what the result before has left of it. -/
def Linked (dispatcher : Dispatcher) : ShortCircuit → List StepTurn → Prop
  | _, [] => True
  | circuit, turn :: rest =>
    turn.standing.shortCircuit = circuit ∧ ∃ result,
      (turn.course dispatcher).outcome = .ok result ∧
        Linked dispatcher (circuit.noting result) rest

namespace Linked

variable {dispatcher : Dispatcher} {circuit : ShortCircuit} {turns : List StepTurn}

/-- From an armed short circuit on, all turns are skipped. -/
theorem skipped (linked : Linked dispatcher circuit turns) (armed : 0 < circuit.count) :
    ∀ turn ∈ turns, turn.Skipped dispatcher := by
  induction turns generalizing circuit with
  | nil => simp
  | cons turn rest ih =>
      obtain ⟨found, result, outcome, others⟩ := linked
      have skips : turn.Skipped dispatcher := by
        apply StepTurn.skipped_of_armed
        simpa [found, ShortCircuit.armed] using armed
      have stillArmed : 0 < (circuit.noting result).count := by
        rw [ShortCircuit.count_noting]
        split <;> omega
      intro other member
      rcases List.mem_cons.mp member with rfl | later
      · exact skips
      · exact ih others stillArmed other later

/-- From an idle short circuit on, the first turn that does not pass is the last one taken. -/
theorem shortCircuited (linked : Linked dispatcher circuit turns) (idle : circuit.count = 0) :
    ShortCircuited dispatcher false turns := by
  induction turns with
  | nil => exact .passing (by simp)
  | cons turn rest ih =>
      obtain ⟨found, result, outcome, others⟩ := linked
      have taken : turn.Taken dispatcher := by
        apply StepTurn.taken_of_idle
        simp [found, ShortCircuit.armed, idle]
      cases passed : result.passed with
      | true =>
          have passes : turn.passes dispatcher = true := by
            simp [StepTurn.passes, outcome, passed]
          simp only [ShortCircuit.noting, passed, if_true] at others
          exact (ih others).cons_of_passes taken passes
      | false =>
          have stops : turn.passes dispatcher = false := by
            simp [StepTurn.passes, outcome, passed]
          have armed : 0 < (circuit.noting result).count := by
            simp [ShortCircuit.count_noting, passed, idle]
          rw [← List.nil_append (turn :: rest)]
          exact .stopping (by simp) taken stops (others.skipped armed)

/-- From a negative count on, as many steps that do not pass are tolerated. -/
theorem tolerated (linked : Linked dispatcher circuit turns) (idle : circuit.count ≤ 0) :
    ∃ tolerated rest, turns = tolerated ++ rest ∧
      (∀ turn ∈ tolerated, turn.Taken dispatcher) ∧
      tolerated.countP (fun turn => !turn.passes dispatcher) ≤ -circuit.count ∧
      (rest ≠ [] → tolerated.countP (fun turn => !turn.passes dispatcher) = -circuit.count) ∧
      ShortCircuited dispatcher false rest := by
  induction turns generalizing circuit with
  | nil => exact ⟨[], [], rfl, by simp, by simpa using idle, by simp, .passing (by simp)⟩
  | cons turn rest ih =>
      by_cases exhausted : circuit.count = 0
      · exact ⟨[], turn :: rest, rfl, by simp, by simpa using idle, by simp [exhausted],
          linked.shortCircuited exhausted⟩
      obtain ⟨found, result, outcome, others⟩ := linked
      have taken : turn.Taken dispatcher := by
        apply StepTurn.taken_of_idle
        simpa [found, ShortCircuit.armed] using idle
      have passes : turn.passes dispatcher = result.passed := by
        simp [StepTurn.passes, outcome]
      have stillIdle : (circuit.noting result).count ≤ 0 := by
        rw [ShortCircuit.count_noting]
        split <;> omega
      obtain ⟨tolerated, later, cut, allTaken, bounded, full, shaped⟩ := ih others stillIdle
      have counted : (turn :: tolerated).countP (fun turn => !turn.passes dispatcher) +
          circuit.count =
            tolerated.countP (fun turn => !turn.passes dispatcher) +
              (circuit.noting result).count := by
        rw [List.countP_cons, passes, ShortCircuit.count_noting]
        cases result.passed with
        | true => simp
        | false =>
            simp
            omega
      refine ⟨turn :: tolerated, later, by rw [cut, List.cons_append], ?_, ?_, ?_, shaped⟩
      · intro other member
        rcases List.mem_cons.mp member with rfl | among
        · exact taken
        · exact allTaken other among
      · omega
      · intro remaining
        have := full remaining
        omega

end Linked

/-- Whether a move leaves the short circuit to the steps before it. -/
def Move.SharesCircuit : Move → Prop
  | .openRow sharing _ _ => sharing.shortCircuit = true
  | .step _ _ => True
  | .closeRow _ _ => True

namespace Dispatcher

variable (dispatcher : Dispatcher)

theorem linked_turns {moves : List Move} (shared : ∀ move ∈ moves, move.SharesCircuit)
    {standing : Standing} {results : List Result}
    (returns : (dispatcher.walk moves standing).outcome = .ok results) :
    Linked dispatcher standing.shortCircuit (dispatcher.turns moves standing) := by
  induction moves generalizing standing results with
  | nil => trivial
  | cons move rest ih =>
      obtain ⟨own, others, moved, walked, rfl⟩ := dispatcher.walk_cons_returns returns
      have restShared : ∀ move ∈ rest, move.SharesCircuit := by
        intro other member
        exact shared other (List.mem_cons_of_mem move member)
      have linked := ih restShared walked
      cases move with
      | openRow sharing scenario row =>
          have sharedHere : sharing.shortCircuit = true := shared _ List.mem_cons_self
          have kept : (standing.enterRow sharing).shortCircuit = standing.shortCircuit := by
            simp [Standing.enterRow, sharedHere]
          rw [turns]
          rw [dispatcher.passage_openRow_of_returns moved] at linked ⊢
          rw [kept] at linked
          exact linked
      | closeRow scenario row => exact linked
      | step row step =>
          obtain ⟨result, ready, rfl, outcome⟩ := dispatcher.passage_step_returns moved
          rw [turns]
          rw [dispatcher.passage_step_of_ok ready outcome] at linked ⊢
          exact ⟨rfl, result, outcome, linked⟩

theorem sharesCircuit_backgroundMoves (background : Option Scenario) :
    ∀ move ∈ Scenario.backgroundMoves background, move.SharesCircuit := by
  cases background with
  | none => simp [Scenario.backgroundMoves]
  | some background =>
      intro move member
      obtain ⟨row, _, among⟩ := List.mem_flatMap.mp member
      simp only [Scenario.rowMoves, List.nil_append, List.mem_cons, List.mem_append,
        List.mem_map, List.not_mem_nil, or_false] at among
      rcases among with rfl | ⟨step, _, rfl⟩ | rfl
      · rfl
      · trivial
      · trivial

/-- What comes after the beginning of a row shares the short circuit of the row. -/
theorem sharesCircuit_inRow (background : Option Scenario) (scenario : Scenario)
    (row : Record) :
    ∀ move ∈ Scenario.backgroundMoves background ++
      (scenario.steps.map (.step row) ++ [.closeRow scenario row]), move.SharesCircuit := by
  intro move member
  simp only [List.mem_append, List.mem_map, List.mem_singleton] at member
  rcases member with replayed | ⟨step, _, rfl⟩ | rfl
  · exact sharesCircuit_backgroundMoves background move replayed
  · trivial
  · trivial

/-- The turns of one row, its background included, are linked from where the row begins. -/
theorem linked_row {sharing : RowSharing} {background : Option Scenario} {scenario : Scenario}
    {row : Record} {standing : Standing} {results : List Result}
    (returns : (dispatcher.walk
      (scenario.rowMoves sharing (Scenario.backgroundMoves background) row) standing).outcome =
        .ok results) :
    Linked dispatcher (standing.enterRow sharing).shortCircuit
      (dispatcher.turns (scenario.rowMoves sharing (Scenario.backgroundMoves background) row)
        standing) := by
  obtain ⟨own, others, opened, walked, rfl⟩ := dispatcher.walk_cons_returns returns
  have linked := dispatcher.linked_turns (sharesCircuit_inRow background scenario row) walked
  rw [Scenario.rowMoves, turns]
  rw [dispatcher.passage_openRow_of_returns opened] at linked ⊢
  exact linked

theorem map_subject_row {sharing : RowSharing} {background : Option Scenario}
    {scenario : Scenario} {row : Record} (standing : Standing) :
    (dispatcher.turns (scenario.rowMoves sharing (Scenario.backgroundMoves background) row)
      standing).map StepTurn.subject = scenario.rowSteps background row := by
  rw [map_subject_turns, Scenario.filterMap_subject?_rowMoves,
    Scenario.filterMap_subject?_backgroundMoves, Scenario.rowSteps]

/-- The turns of a scenario whose rows share a short circuit are linked over all rows. -/
theorem linked_scenario {sharing : RowSharing} {background : Option Scenario}
    {scenario : Scenario} {standing : Standing} {results : List Result}
    (shared : sharing.shortCircuit = true)
    (returns : (dispatcher.walk (scenario.moves sharing background) standing).outcome =
      .ok results) :
    Linked dispatcher standing.shortCircuit
      (dispatcher.turns (scenario.moves sharing background) standing) := by
  apply dispatcher.linked_turns _ returns
  intro move member
  obtain ⟨row, _, among⟩ := List.mem_flatMap.mp member
  rcases List.mem_cons.mp among with rfl | within
  · exact shared
  · exact sharesCircuit_inRow background scenario row move within

end Dispatcher

/-- The blocks of turns that a scenario which returned its results has run in, one block for each
of its rows.  The results and the invocations are those of the turns, and the turns of a block
are the steps of the background and then those of the row.

If each row has a short circuit of its own, every block is short-circuited from an idle one on.
If the rows share one that was there before, all of them together are short-circuited from it on;
when its count is negative, that many steps that do not pass are tolerated first. -/
structure RowBlocks (dispatcher : Dispatcher) (sharing : RowSharing)
    (background : Option Scenario) (scenario : Scenario) (state : RunState)
    (results : List Result) (blocks : List (List StepTurn)) : Prop where
  walked : blocks.flatten = dispatcher.turns (scenario.moves sharing background) state.standing
  outcomes : blocks.flatten.map (fun turn => (turn.course dispatcher).outcome) = results.map .ok
  invocations :
    ((dispatcher.runScenario sharing background scenario).run
        state).2.observer.journal.invocations =
      state.observer.journal.invocations ++
        blocks.flatten.filterMap fun turn => (turn.course dispatcher).invocation
  rows : List.Forall₂ (fun row block =>
    block.map StepTurn.subject = scenario.rowSteps background row ∧
      (sharing.shortCircuit = false → ShortCircuited dispatcher false block))
    scenario.rows blocks
  shared : sharing.shortCircuit = true → 0 ≤ state.shortCircuit.count →
    ShortCircuited dispatcher state.shortCircuit.armed blocks.flatten
  sharedNegative : sharing.shortCircuit = true → state.shortCircuit.count < 0 →
    ∃ tolerated rest, blocks.flatten = tolerated ++ rest ∧
      (∀ turn ∈ tolerated, turn.Taken dispatcher) ∧
      tolerated.countP (fun turn => !turn.passes dispatcher) ≤ -state.shortCircuit.count ∧
      (rest ≠ [] →
        tolerated.countP (fun turn => !turn.passes dispatcher) = -state.shortCircuit.count) ∧
      ShortCircuited dispatcher false rest

namespace Dispatcher

variable (dispatcher : Dispatcher)

/-- The shape of every row: a scenario that returns has run in blocks of turns. -/
theorem exists_rowBlocks (sharing : RowSharing) (background : Option Scenario)
    (scenario : Scenario) (state : RunState) {results : List Result}
    (returns : ((dispatcher.runScenario sharing background scenario).run state).1 =
      .ok results) :
    ∃ blocks, RowBlocks dispatcher sharing background scenario state results blocks := by
  have followed := dispatcher.runMoves_follows (scenario.moves sharing background) state
  rw [← runScenario_eq] at followed
  obtain ⟨observer, grown, returned, runs⟩ := followed.run_eq_of_ok returns
  obtain ⟨sameResults, sameInvocations⟩ := dispatcher.walk_returns returned
  obtain ⟨blocks, cut, parted⟩ := dispatcher.exists_blocks _ returned
  refine ⟨blocks, cut.symm, ?_, ?_, ?_, ?_, ?_⟩
  · rw [← cut]
    exact sameResults
  · rw [runs, ← cut]
    exact (Journal.invocations_of_events grown).trans (by rw [sameInvocations]; rfl)
  · refine parted.imp ?_
    rintro row block ⟨begun, own, walked, rfl⟩
    refine ⟨dispatcher.map_subject_row begun, ?_⟩
    intro alone
    apply (dispatcher.linked_row walked).shortCircuited
    simp [Standing.enterRow, alone, ShortCircuit.idle]
  · intro shared counted
    have linked := dispatcher.linked_scenario shared returned
    rw [← cut]
    rcases Int.lt_or_eq_of_le counted with positive | zero
    · have armed : state.shortCircuit.armed = true := by
        simpa [ShortCircuit.armed] using positive
      rw [armed]
      exact .skipping (linked.skipped positive)
    · have idle : state.shortCircuit.armed = false := by
        simp [ShortCircuit.armed, ← zero]
      rw [idle]
      exact linked.shortCircuited zero.symm
  · intro shared negative
    rw [← cut]
    exact (dispatcher.linked_scenario shared returned).tolerated (Int.le_of_lt negative)

/-- A step of the background passes, the next one is not defined, and the last one is skipped. -/
theorem exists_rowBlocks_undefined :
    let known : Step := ⟨[], [], .null, .null⟩
    let unknown : Step := ⟨['x'], [], .null, .null⟩
    let dispatcher : Dispatcher := ⟨⟨[([], [⟨[], ⟨[], ⟨false, false, false⟩, .sequence [], 0⟩,
      ⟨.either, .done⟩⟩])]⟩, false⟩
    let background : Scenario := ⟨[], [known], [], true, []⟩
    let scenario : Scenario := ⟨[], [unknown, known], [], false, []⟩
    let state : RunState := ⟨.start .silent, [], [], .idle⟩
    ∃ results blocks,
      ((dispatcher.runScenario ⟨false, false⟩ (some background) scenario).run state).1 =
        .ok results ∧
      results.map Result.status = [.passing, .undefined, .pending] ∧
      RowBlocks dispatcher ⟨false, false⟩ (some background) scenario state results blocks := by
  intro known unknown dispatcher background scenario state
  let ran := (dispatcher.runScenario ⟨false, false⟩ (some background) scenario).run state
  have statuses : ran.1.toOption.map (·.map Result.status) =
      some [.passing, .undefined, .pending] := by
    decide +kernel
  cases returns : ran.1 with
  | error abort =>
      rw [returns] at statuses
      cases statuses
  | ok results =>
      rw [returns] at statuses
      obtain ⟨blocks, shaped⟩ := dispatcher.exists_rowBlocks _ _ _ state returns
      exact ⟨results, blocks, rfl, Option.some.inj statuses, shaped⟩

/-- With a count below zero, a step that does not pass need not be followed by skipped steps. -/
theorem not_shortCircuited_of_negative :
    ¬ ∀ (dispatcher : Dispatcher) (background : Option Scenario) (scenario : Scenario)
        (state : RunState) (results : List Result),
      ((dispatcher.runScenario ⟨false, true⟩ background scenario).run state).1 = .ok results →
        ∃ block : List StepTurn,
          block.map (fun turn => (turn.course dispatcher).outcome) = results.map .ok ∧
            ShortCircuited dispatcher state.shortCircuit.armed block := by
  intro claimed
  let unknown : Step := ⟨[], [], .null, .null⟩
  let scenario : Scenario := ⟨[], [unknown, unknown], [], false, []⟩
  let state : RunState := ⟨.start .silent, [], [], ⟨-1⟩⟩
  let dispatcher : Dispatcher := ⟨.empty, false⟩
  let ran := (dispatcher.runScenario ⟨false, true⟩ none scenario).run state
  have statuses : ran.1.toOption.map (·.map Result.status) = some [.undefined, .undefined] := by
    decide +kernel
  cases returns : ran.1 with
  | error abort =>
      rw [returns] at statuses
      cases statuses
  | ok results =>
      rw [returns] at statuses
      replace statuses := Option.some.inj statuses
      obtain ⟨block, sameOutcomes, shaped⟩ := claimed dispatcher none scenario state _ returns
      have resultLength : results.length = 2 := by
        simpa using congrArg List.length statuses
      have blockLength : block.length = 2 := by
        simpa [resultLength] using congrArg List.length sameOutcomes
      obtain ⟨first, second, rfl⟩ := List.length_eq_two.mp resultLength
      obtain ⟨one, other, rfl⟩ := List.length_eq_two.mp blockLength
      injection statuses with firstUndefined statuses
      injection statuses with secondUndefined
      injection sameOutcomes with oneOutcome sameOutcomes
      injection sameOutcomes with otherOutcome
      have stops : one.passes dispatcher = false := by
        simp [StepTurn.passes, oneOutcome, Result.passed, firstUndefined]
      have skipped := (shaped.skipped_of_stops stops other (by simp)).1
      injection otherOutcome.symm.trans skipped with sameResult
      rw [sameResult] at secondUndefined
      cases secondUndefined

end Dispatcher

end FeatureRunner
