import FeatureRunner.Proofs.Run.Walk

/-!
# Listeners that have a place for everything

A reporting listener ends a run when it is told of a row before any feature, or of the end of a
step or row while nothing is open.  The moves of a feature are nested, so that none of this
happens: every step lies between the beginning and the end of its row, and so do the rows of the
background.

This file counts open rows, proves that a listener which was told of a feature has a place for
all callbacks of its walk, and concludes that executing a feature always follows its walk.
-/

namespace FeatureRunner

namespace Move

/-- How many rows are open after a move, if it is one that may come.  A row shares the stash of
the row that it runs in, and has one of its own if it runs in none. -/
def depthAfter? (depth : Nat) : Move → Option Nat
  | .openRow sharing _ _ => if sharing.stash = decide (0 < depth) then some (depth + 1) else none
  | .step _ _ => if 0 < depth then some depth else none
  | .closeRow _ _ => if 0 < depth then some (depth - 1) else none

/-- Moves are nested in open rows if all of them may come, and leave these rows open. -/
def Nested (depth : Nat) (moves : List Move) : Prop :=
  moves.foldlM depthAfter? depth = some depth

theorem nested_nil (depth : Nat) : Nested depth [] :=
  rfl

theorem Nested.append {depth : Nat} {first second : List Move} (front : Nested depth first)
    (back : Nested depth second) : Nested depth (first ++ second) := by
  unfold Nested at *
  rw [List.foldlM_append, front]
  exact back

theorem nested_flatMap {Part : Type} {depth : Nat} {movesOf : Part → List Move}
    (each : ∀ part, Nested depth (movesOf part)) (parts : List Part) :
    Nested depth (parts.flatMap movesOf) := by
  induction parts with
  | nil => exact nested_nil depth
  | cons part rest ih =>
      rw [List.flatMap_cons]
      exact (each part).append ih

theorem nested_steps {depth : Nat} (row : Record) (steps : List Step) :
    Nested (depth + 1) (steps.map (.step row)) := by
  induction steps with
  | nil => exact nested_nil _
  | cons step rest ih =>
      have here : Nested (depth + 1) [.step row step] := by
        simp [Nested, depthAfter?]
      exact here.append ih

/-- What comes after the beginning of a row ends the row, if what comes ahead of its steps leaves
it open. -/
theorem foldlM_depthAfter?_inRow {depth : Nat} {before : List Move}
    (ahead : Nested (depth + 1) before) (scenario : Scenario) (row : Record) :
    (before ++ (scenario.steps.map (Move.step row) ++ [Move.closeRow scenario row])).foldlM
      depthAfter? (depth + 1) = some depth := by
  have inside := ahead.append (nested_steps row scenario.steps)
  unfold Nested at inside
  rw [← List.append_assoc, List.foldlM_append, inside]
  simp [depthAfter?]

/-- A row leaves open what was open, if what comes ahead of its steps does. -/
theorem nested_rowMoves {depth : Nat} {before : List Move} (ahead : Nested (depth + 1) before)
    {sharing : RowSharing} (shares : sharing.stash = decide (0 < depth)) (scenario : Scenario)
    (row : Record) : Nested depth (scenario.rowMoves sharing before row) := by
  unfold Nested
  rw [Scenario.rowMoves, List.foldlM_cons]
  simp only [depthAfter?, shares, if_true, Option.bind_eq_bind, Option.bind_some]
  exact foldlM_depthAfter?_inRow ahead scenario row

theorem nested_backgroundMoves (depth : Nat) (background : Option Scenario) :
    Nested (depth + 1) (Scenario.backgroundMoves background) := by
  cases background with
  | none => exact nested_nil _
  | some background =>
      apply nested_flatMap
      intro row
      exact nested_rowMoves (nested_nil _) (by simp) background row

theorem nested_outlineMoves (background : Option Scenario)
    (rows : List (Scenario × Record)) :
    Nested 0 (rows.flatMap (Scenario.outlineMoves background)) := by
  apply nested_flatMap
  intro row
  exact nested_rowMoves (nested_backgroundMoves 0 background) rfl row.1 row.2

end Move

namespace Listener

/-- A listener that was told of a feature, and has at least so many records open. -/
def HasOpen (depth : Nat) : Listener → Prop
  | silent => True
  | reporting report => report.features ≠ [] ∧ depth ≤ report.opened.length

theorem HasOpen.rowStarted {depth : Nat} {listener : Listener} (opened : listener.HasOpen depth)
    (scenario : Scenario) (row : Record) (longestLine : Value) :
    ∃ after, listener.told? (Dispatcher.rowStarted scenario row longestLine) = some after ∧
      after.HasOpen (depth + 1) := by
  cases listener with
  | silent => exact ⟨.silent, rfl, trivial⟩
  | reporting report =>
      obtain ⟨begun, deep⟩ := opened
      rcases report with ⟨_ | ⟨feature, earlier⟩, records, places, results⟩
      · exact absurd rfl begun
      · unfold Dispatcher.rowStarted
        split
        · exact ⟨_, rfl, List.cons_ne_nil _ _, Nat.succ_le_succ deep⟩
        · exact ⟨_, rfl, List.cons_ne_nil _ _, Nat.succ_le_succ deep⟩

/-- A listener that was told of no feature has no place for a row. -/
theorem told?_rowStarted_of_not_open {listener : Listener} (closed : ¬ listener.HasOpen 0)
    (scenario : Scenario) (row : Record) (longestLine : Value) :
    listener.told? (Dispatcher.rowStarted scenario row longestLine) = none := by
  cases listener with
  | silent => exact absurd trivial closed
  | reporting report =>
      rcases report with ⟨_ | ⟨feature, earlier⟩, records, places, results⟩
      · unfold Dispatcher.rowStarted
        split <;> rfl
      · exact absurd ⟨List.cons_ne_nil _ _, Nat.zero_le _⟩ closed

theorem HasOpen.rowFinished {depth : Nat} {listener : Listener}
    (opened : listener.HasOpen depth) (inside : 0 < depth) (scenario : Scenario)
    (row : Record) :
    ∃ after, listener.told? (Dispatcher.rowFinished scenario row) = some after ∧
      after.HasOpen (depth - 1) := by
  cases listener with
  | silent => exact ⟨.silent, rfl, trivial⟩
  | reporting report =>
      obtain ⟨begun, deep⟩ := opened
      rcases report with ⟨features, records, _ | ⟨place, others⟩, results⟩
      · simp only [List.length_nil] at deep
        omega
      · have shallower : depth - 1 ≤ others.length := by
          simp only [List.length_cons] at deep
          omega
        unfold Dispatcher.rowFinished
        split
        · exact ⟨_, rfl, begun, shallower⟩
        · exact ⟨_, rfl, begun, shallower⟩

theorem HasOpen.stepFinished {depth : Nat} {listener : Listener}
    (opened : listener.HasOpen depth) (inside : 0 < depth) (context : StepContext)
    (result : Result) :
    ∃ after, listener.told? (.stepFinished context result) = some after ∧
      after.HasOpen depth := by
  cases listener with
  | silent => exact ⟨.silent, rfl, trivial⟩
  | reporting report =>
      obtain ⟨begun, deep⟩ := opened
      rcases report with ⟨features, records, _ | ⟨place, others⟩, results⟩
      · simp only [List.length_nil] at deep
        omega
      · exact ⟨_, rfl, begun, deep⟩

theorem told?_featureStarted (listener : Listener) (feature : Feature) :
    ∃ told, listener.told? (.featureStarted feature) = some told ∧ told.HasOpen 0 := by
  cases listener with
  | silent => exact ⟨.silent, rfl, trivial⟩
  | reporting report => exact ⟨_, rfl, by simp, Nat.zero_le _⟩

theorem told?_featureFinished (listener : Listener) (feature : Feature) :
    listener.told? (.featureFinished feature) = some listener := by
  cases listener <;> rfl

end Listener

namespace Dispatcher

variable (dispatcher : Dispatcher)

theorem toldAll?_passage {move : Move} {depth after : Nat} (standing : Standing)
    {listener : Listener} (opened : listener.HasOpen depth)
    (comes : move.depthAfter? depth = some after) :
    ∃ told, listener.toldAll? (dispatcher.passage move standing).events.callbacks = some told ∧
      ∀ results, (dispatcher.passage move standing).outcome = .ok results →
        told.HasOpen after := by
  cases obstacle : dispatcher.obstacle? move with
  | some failure =>
      rw [dispatcher.passage_of_obstacle obstacle]
      exact ⟨listener, rfl, fun results returns => by cases returns⟩
  | none =>
    cases move with
    | openRow sharing scenario row =>
        simp only [Move.depthAfter?, Option.ite_none_right_eq_some, Option.some.injEq] at comes
        obtain ⟨_, rfl⟩ := comes
        obtain ⟨told, has, deeper⟩ := opened.rowStarted scenario row
          ((Record.get? (standing.enterRow sharing).scenarioStash
            "longest_step_line".toList).getD .null)
        refine ⟨told, ?_, fun _ _ => deeper⟩
        rw [dispatcher.passage_openRow (Option.map_eq_none_iff.mp obstacle)]
        exact (listener.toldAll?_singleton _).trans has
    | closeRow scenario row =>
        simp only [Move.depthAfter?, Option.ite_none_right_eq_some, Option.some.injEq] at comes
        obtain ⟨inside, rfl⟩ := comes
        obtain ⟨told, has, shallower⟩ := opened.rowFinished inside scenario row
        refine ⟨told, ?_, fun _ _ => shallower⟩
        rw [passage_closeRow]
        exact (listener.toldAll?_singleton _).trans has
    | step row step =>
        simp only [Move.depthAfter?, Option.ite_none_right_eq_some, Option.some.injEq] at comes
        obtain ⟨inside, rfl⟩ := comes
        cases outcome : (dispatcher.stepCourse row step standing).outcome with
        | error abort =>
            rw [dispatcher.passage_step_of_error obstacle outcome]
            refine ⟨listener, ?_, fun results returns => by cases returns⟩
            simp [StepCourse.callbacks_events, outcome]
        | ok result =>
            rw [dispatcher.passage_step_of_ok obstacle outcome]
            obtain ⟨told, has, same⟩ := opened.stepFinished inside
              (dispatcher.stepCourse row step standing).ended result
            refine ⟨told, ?_, fun _ _ => same⟩
            simp [StepCourse.callbacks_events, outcome, has]

/-- A listener with enough open rows has a place for the callbacks of a walk. -/
theorem toldAll?_walk {moves : List Move} {depth after : Nat} (standing : Standing)
    {listener : Listener} (opened : listener.HasOpen depth)
    (comes : moves.foldlM Move.depthAfter? depth = some after) :
    ∃ told, listener.toldAll? (dispatcher.walk moves standing).events.callbacks = some told ∧
      ∀ results, (dispatcher.walk moves standing).outcome = .ok results →
        told.HasOpen after := by
  induction moves generalizing depth standing listener with
  | nil =>
      cases comes
      exact ⟨listener, rfl, fun _ _ => opened⟩
  | cons move rest ih =>
      rw [List.foldlM_cons] at comes
      obtain ⟨between, comesFirst, comesLater⟩ := Option.bind_eq_some_iff.mp comes
      obtain ⟨told, has, reopened⟩ :=
        dispatcher.toldAll?_passage standing opened comesFirst
      cases own : (dispatcher.passage move standing).outcome with
      | error abort =>
          rw [dispatcher.walk_cons_of_error own]
          exact ⟨told, has, fun results returns => by cases returns⟩
      | ok results =>
          obtain ⟨final, others, deep⟩ := ih (dispatcher.passage move standing).standing
            (reopened results own) comesLater
          refine ⟨final, ?_, ?_⟩
          · rw [dispatcher.walk_cons_of_ok own, Journal.callbacks_append,
              Listener.toldAll?_append, has]
            exact others
          · intro whole returns
            obtain ⟨_, later, _, walked, _⟩ := dispatcher.walk_cons_returns returns
            exact deep later walked

/-- A listener that was told of a feature has a place for the callbacks of a row, whatever the row
shares with what was there before. -/
theorem toldAll?_row (sharing : RowSharing) (background : Option Scenario) (scenario : Scenario)
    (row : Record) (standing : Standing) {listener : Listener} (opened : listener.HasOpen 0) :
    ∃ told, listener.toldAll? (dispatcher.walk
        (scenario.rowMoves sharing (Scenario.backgroundMoves background) row)
          standing).events.callbacks = some told ∧
      ∀ results, (dispatcher.walk
        (scenario.rowMoves sharing (Scenario.backgroundMoves background) row)
          standing).outcome = .ok results → told.HasOpen 0 := by
  cases noticed : dispatcher.noticeFlaw? (.record row) with
  | some flaw =>
      rw [Scenario.rowMoves,
        dispatcher.walk_cons_of_obstacle (obstacle?_openRow_of_flaw noticed sharing scenario)]
      exact ⟨listener, rfl, fun _ returns => by cases returns⟩
  | none =>
      have opening := dispatcher.passage_openRow noticed sharing scenario standing
      obtain ⟨begun, has, deeper⟩ := opened.rowStarted scenario row
        ((Record.get? (standing.enterRow sharing).scenarioStash
          "longest_step_line".toList).getD .null)
      obtain ⟨told, others, closed⟩ := dispatcher.toldAll?_walk (standing.enterRow sharing) deeper
        (Move.foldlM_depthAfter?_inRow (Move.nested_backgroundMoves 0 background) scenario row)
      refine ⟨told, ?_, ?_⟩
      · have opens : (dispatcher.passage (.openRow sharing scenario row) standing).outcome =
            .ok [] := by
          rw [opening]
        rw [Scenario.rowMoves, dispatcher.walk_cons_of_ok opens]
        simp only [opening, List.singleton_append, Journal.callbacks_cons,
          Listener.toldAll?_cons, has, Option.bind_some]
        exact others
      · intro results returns
        obtain ⟨_, later, _, walked, _⟩ := dispatcher.walk_cons_returns returns
        rw [opening] at walked
        exact closed later walked

/-- A listener that was told of a feature has a place for the callbacks of a scenario. -/
theorem toldAll?_rows (sharing : RowSharing) (background : Option Scenario) (scenario : Scenario)
    (rows : List Record) (standing : Standing) {listener : Listener}
    (opened : listener.HasOpen 0) :
    ∃ told, listener.toldAll? (dispatcher.walk
      (rows.flatMap (scenario.rowMoves sharing (Scenario.backgroundMoves background)))
        standing).events.callbacks = some told := by
  induction rows generalizing standing listener with
  | nil => exact ⟨listener, rfl⟩
  | cons row rest ih =>
      obtain ⟨told, has, reopened⟩ :=
        dispatcher.toldAll?_row sharing background scenario row standing opened
      rw [List.flatMap_cons]
      cases own : (dispatcher.walk (scenario.rowMoves sharing
        (Scenario.backgroundMoves background) row) standing).outcome with
      | error abort =>
          rw [dispatcher.walk_append_of_error own]
          exact ⟨told, has⟩
      | ok results =>
          obtain ⟨final, others⟩ := ih (dispatcher.walk (scenario.rowMoves sharing
            (Scenario.backgroundMoves background) row) standing).standing
              (reopened results own)
          refine ⟨final, ?_⟩
          rw [dispatcher.walk_append_of_ok own, Journal.callbacks_append,
            Listener.toldAll?_append, has]
          exact others

/-- Running a scenario has the events of its walk and ends as the walk does, if the listener was
told of a feature. -/
theorem exists_run_runScenario (sharing : RowSharing) (background : Option Scenario)
    (scenario : Scenario) {state : RunState} (opened : state.observer.listener.HasOpen 0) :
    ∃ observer : Observer,
      observer.journal.events = state.observer.journal.events ++
        (dispatcher.walk (scenario.moves sharing background) state.standing).events ∧
      (dispatcher.runScenario sharing background scenario).run state =
        ((dispatcher.walk (scenario.moves sharing background) state.standing).outcome,
          (dispatcher.walk (scenario.moves sharing background)
            state.standing).standing.observedBy observer) := by
  obtain ⟨told, has⟩ := dispatcher.toldAll?_rows sharing background scenario scenario.rows
    state.standing opened
  have follows := dispatcher.runMoves_follows (scenario.moves sharing background) state
  rw [← runScenario_eq] at follows
  obtain ⟨journal, grown, runs⟩ := follows.run_eq has
  exact ⟨⟨journal, told⟩, grown, runs⟩

/-- A row that the listener has no place for ends the run at its beginning. -/
theorem exists_run_openRow_of_not_open {row : Record}
    (ready : dispatcher.noticeFlaw? (.record row) = none) (sharing : RowSharing)
    (scenario : Scenario) {state : RunState} (closed : ¬ state.observer.listener.HasOpen 0) :
    ∃ (observer : Observer) (longestLine : Value),
      observer.journal.events = state.observer.journal.events ++
        [.callback (rowStarted scenario row longestLine)] ∧
      (dispatcher.runMove (.openRow sharing scenario row)).run state =
        (.error .nothingOpen, (state.standing.enterRow sharing).observedBy observer) := by
  obtain ⟨noticed, quiet, notices⟩ := dispatcher.run_noticeRow ready scenario state
  let longestLine := (Record.get? (state.enterRow sharing).scenarioStash
    "longest_step_line".toList).getD .null
  let callback := rowStarted scenario row longestLine
  refine ⟨noticed.enter (.callback callback), longestLine, ?_, ?_⟩
  · exact (Journal.events_append noticed.journal _).trans (by rw [quiet.1]; rfl)
  · have refused : noticed.tell callback =
        (.error .nothingOpen, noticed.enter (.callback callback)) := by
      have unheard : noticed.listener.told? callback = none := by
        rw [quiet.2]
        exact Listener.told?_rowStarted_of_not_open closed scenario row longestLine
      rw [Observer.tell_eq, unheard]
    have told : (RunM.tell callback).run ((state.standing.enterRow sharing).observedBy noticed) =
        (.error .nothingOpen,
          (state.standing.enterRow sharing).observedBy (noticed.enter (.callback callback))) := by
      rw [RunM.run_tell, Standing.observer_observedBy, refused]
      rfl
    exact (run_bind_of_ok notices).trans
      ((run_bind_of_ok (run_modify _ _)).trans
        ((run_bind_of_ok (run_get _)).trans (run_bind_of_error told)))

/-- Running a scenario ends with the beginning of its first row, if the listener was not told of
any feature. -/
theorem exists_run_runScenario_of_not_open {scenario : Scenario} {row : Record}
    {rest : List Record} (rows : scenario.rows = row :: rest)
    (ready : dispatcher.noticeFlaw? (.record row) = none) (sharing : RowSharing)
    (background : Option Scenario) {state : RunState}
    (closed : ¬ state.observer.listener.HasOpen 0) :
    ∃ (observer : Observer) (longestLine : Value),
      observer.journal.events = state.observer.journal.events ++
        [.callback (rowStarted scenario row longestLine)] ∧
      (dispatcher.runScenario sharing background scenario).run state =
        (.error .nothingOpen, (state.standing.enterRow sharing).observedBy observer) := by
  obtain ⟨observer, longestLine, grown, runs⟩ :=
    dispatcher.exists_run_openRow_of_not_open ready sharing scenario closed
  refine ⟨observer, longestLine, grown, ?_⟩
  rw [runScenario_eq, Scenario.moves, rows, List.flatMap_cons, Scenario.rowMoves,
    List.cons_append, runMoves]
  exact run_bind_of_error runs

/-- Running a scenario ends in front of its first row, if the row is held up. -/
theorem run_runScenario_of_flaw {scenario : Scenario} {row : Record} {rest : List Record}
    (rows : scenario.rows = row :: rest) {flaw : ShowFlaw}
    (unshown : dispatcher.noticeFlaw? (.record row) = some flaw) (sharing : RowSharing)
    (background : Option Scenario) (state : RunState) :
    (dispatcher.runScenario sharing background scenario).run state =
      (.error (.exit (.ofShowFlaw flaw)), state) := by
  rw [runScenario_eq, Scenario.moves, rows, List.flatMap_cons, Scenario.rowMoves,
    List.cons_append, runMoves]
  exact run_bind_of_error (run_bind_of_error
    (dispatcher.run_noticeRow_of_flaw unshown scenario state))

/-- The moves of the selected scenarios of a feature. -/
def featureMoves (selection : Selection) (feature : Feature) : List Move :=
  (Scenario.outlineRows (selection.apply feature)).flatMap
    (Scenario.outlineMoves feature.background)

/-- The walk through a feature, from the beginning on. -/
def featureWalk (selection : Selection) (feature : Feature) (standing : Standing) :
    Passage (List Result) :=
  dispatcher.walk (featureMoves selection feature) { standing with featureStash := [] }

/-- The passage of a feature: its walk between its own callbacks. -/
def featurePassage (selection : Selection) (feature : Feature) (standing : Standing) :
    Passage (List Result) :=
  (Passage.telling (.featureStarted feature) { standing with featureStash := [] }).andThen
    fun _ begun => (dispatcher.walk (featureMoves selection feature) begun).andThen
      fun results walked => (Passage.telling (.featureFinished feature) walked).andThen
        fun _ => Passage.still results

open RunM

theorem runFeature_follows (selection : Selection) (feature : Feature) (state : RunState) :
    (dispatcher.runFeature selection feature).Follows state
      (dispatcher.featurePassage selection feature state.standing) := by
  unfold runFeature
  refine .of_run_eq (run_bind_of_ok (run_modify _ state)) (.refl _) ?_
  refine (tell_follows _ _).bind fun _ begun => ?_
  refine .of_run_eq (run_bind_of_ok (run_modify _ begun)) (Observer.give_agrees ..) ?_
  rw [runScenarios_eq]
  refine (dispatcher.runMoves_follows _ _).bind fun results walked => ?_
  exact (tell_follows _ walked).bind fun _ => pure_follows results

variable {dispatcher}

theorem featurePassage_of_error {selection : Selection} {feature : Feature}
    {standing : Standing} {abort : Abort}
    (ends : (dispatcher.featureWalk selection feature standing).outcome = .error abort) :
    dispatcher.featurePassage selection feature standing =
      ⟨.callback (.featureStarted feature) ::
          (dispatcher.featureWalk selection feature standing).events,
        .error abort, (dispatcher.featureWalk selection feature standing).standing⟩ := by
  unfold featureWalk at ends ⊢
  simp [featurePassage, Passage.andThen, Passage.telling, ends]

theorem featurePassage_of_ok {selection : Selection} {feature : Feature}
    {standing : Standing} {results : List Result}
    (returns : (dispatcher.featureWalk selection feature standing).outcome = .ok results) :
    dispatcher.featurePassage selection feature standing =
      ⟨.callback (.featureStarted feature) ::
          ((dispatcher.featureWalk selection feature standing).events ++
            [.callback (.featureFinished feature)]),
        .ok results, (dispatcher.featureWalk selection feature standing).standing⟩ := by
  unfold featureWalk at returns ⊢
  simp [featurePassage, Passage.andThen, Passage.telling, Passage.still, returns]

variable (dispatcher)

theorem outcome_featurePassage (selection : Selection) (feature : Feature)
    (standing : Standing) :
    (dispatcher.featurePassage selection feature standing).outcome =
      (dispatcher.featureWalk selection feature standing).outcome := by
  cases ending : (dispatcher.featureWalk selection feature standing).outcome with
  | error abort => rw [featurePassage_of_error ending]
  | ok results => rw [featurePassage_of_ok ending]

theorem invocations_featurePassage (selection : Selection) (feature : Feature)
    (standing : Standing) :
    (dispatcher.featurePassage selection feature standing).events.invocations =
      (dispatcher.featureWalk selection feature standing).events.invocations := by
  cases ending : (dispatcher.featureWalk selection feature standing).outcome with
  | error abort =>
      rw [featurePassage_of_error ending]
      rfl
  | ok results =>
      rw [featurePassage_of_ok ending]
      simp [Journal.invocations]

/-- Every listener has a place for the callbacks of a feature. -/
theorem toldAll?_featurePassage (selection : Selection) (feature : Feature)
    (standing : Standing) (listener : Listener) :
    ∃ told, listener.toldAll?
      (dispatcher.featurePassage selection feature standing).events.callbacks = some told := by
  obtain ⟨begun, has, opened⟩ := listener.told?_featureStarted feature
  obtain ⟨walked, hasWalk, -⟩ := dispatcher.toldAll?_walk
    { standing with featureStash := [] } opened
    (Move.nested_outlineMoves feature.background
      (Scenario.outlineRows (selection.apply feature)))
  change begun.toldAll?
    (dispatcher.featureWalk selection feature standing).events.callbacks = _ at hasWalk
  refine ⟨walked, ?_⟩
  cases ending : (dispatcher.featureWalk selection feature standing).outcome with
  | error abort =>
      rw [featurePassage_of_error ending]
      simp only [Journal.callbacks_cons, Listener.toldAll?_cons, has, Option.bind_some]
      exact hasWalk
  | ok results =>
      have last := (walked.toldAll?_singleton _).trans (walked.told?_featureFinished feature)
      rw [featurePassage_of_ok ending]
      simp only [Journal.callbacks_cons, Journal.callbacks_append, Listener.toldAll?_cons, has,
        Option.bind_some, Listener.toldAll?_append, hasWalk]
      exact last

/-- Executing a feature has the events of its passage, of which the listener is told all, and ends
as the passage does. -/
theorem exists_told_runFeature (selection : Selection) (feature : Feature) (state : RunState) :
    ∃ observer : Observer,
      observer.journal.events = state.observer.journal.events ++
        (dispatcher.featurePassage selection feature state.standing).events ∧
      state.observer.listener.toldAll?
        (dispatcher.featurePassage selection feature state.standing).events.callbacks =
          some observer.listener ∧
      (dispatcher.runFeature selection feature).run state =
        ((dispatcher.featurePassage selection feature state.standing).outcome,
          (dispatcher.featurePassage selection feature state.standing).standing.observedBy
            observer) := by
  obtain ⟨told, has⟩ := dispatcher.toldAll?_featurePassage selection feature state.standing
    state.observer.listener
  obtain ⟨journal, grown, runs⟩ :=
    (dispatcher.runFeature_follows selection feature state).run_eq has
  exact ⟨⟨journal, told⟩, grown, has, runs⟩

theorem exists_run_runFeature (selection : Selection) (feature : Feature) (state : RunState) :
    ∃ observer : Observer,
      observer.journal.events = state.observer.journal.events ++
        (dispatcher.featurePassage selection feature state.standing).events ∧
      (dispatcher.runFeature selection feature).run state =
        ((dispatcher.featurePassage selection feature state.standing).outcome,
          (dispatcher.featurePassage selection feature state.standing).standing.observedBy
            observer) := by
  obtain ⟨observer, grown, -, runs⟩ := dispatcher.exists_told_runFeature selection feature state
  exact ⟨observer, grown, runs⟩

end Dispatcher

end FeatureRunner
