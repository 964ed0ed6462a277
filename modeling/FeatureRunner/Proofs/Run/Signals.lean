import FeatureRunner.Proofs.Run.Listening

/-!
# The callback protocol

A signal is what a callback tells apart from what the actions did before: which feature, row or
step begins or ends.  The signals of a feature can be written down from the feature and the
selected scenarios alone.

This file proves that a run which returns gives exactly these signals, whatever the steps match and
whatever their actions do, and that a run which ends early gives a proper part of them: from the
first one up to the beginning of the step whose action raised something, or up to the row or step
that is held up.  The end of a step is always told on the context that was told at its beginning.
-/

namespace FeatureRunner

/-- A callback without the data that come from actions. -/
inductive Signal where
  | featureStarted (feature : Feature)
  | featureFinished (feature : Feature)
  | scenarioStarted (scenario : Scenario) (row : Record)
  | scenarioFinished (scenario : Scenario) (row : Record)
  | backgroundStarted (scenario : Scenario) (row : Record)
  | backgroundFinished (scenario : Scenario) (row : Record)
  | stepStarted (step : Step) (verb text : Text)
  | stepFinished (step : Step) (verb : Text)

/-- The signal of a callback. -/
def Callback.signal : Callback → Signal
  | featureStarted feature => .featureStarted feature
  | featureFinished feature => .featureFinished feature
  | scenarioStarted scenario row _ => .scenarioStarted scenario row
  | scenarioFinished scenario row => .scenarioFinished scenario row
  | backgroundStarted scenario row _ => .backgroundStarted scenario row
  | backgroundFinished scenario row => .backgroundFinished scenario row
  | stepStarted context => .stepStarted context.step context.verb context.text
  | stepFinished context _ => .stepFinished context.step context.verb

/-- The two signals of a step. -/
def Step.signals (row : Record) (step : Step) : List Signal :=
  [.stepStarted step step.verb.lower (step.shownText row), .stepFinished step step.verb.lower]

namespace Scenario

/-- The signal at the beginning of a row. -/
def opening (scenario : Scenario) (row : Record) : Signal :=
  if scenario.background then .backgroundStarted scenario row else .scenarioStarted scenario row

/-- The signal at the end of a row. -/
def closing (scenario : Scenario) (row : Record) : Signal :=
  if scenario.background then .backgroundFinished scenario row
  else .scenarioFinished scenario row

/-- The signals of one row of a scenario; those of `before` come ahead of its own steps. -/
def rowSignals (before : List Signal) (scenario : Scenario) (row : Record) : List Signal :=
  scenario.opening row ::
    (before ++ (scenario.steps.flatMap (Step.signals row) ++ [scenario.closing row]))

/-- The signals of the replay of a background, if there is one. -/
def backgroundSignals : Option Scenario → List Signal
  | none => []
  | some background => background.rows.flatMap (background.rowSignals [])

/-- The signals of a scenario, its background replayed in every row. -/
def signals (background : Option Scenario) (scenario : Scenario) : List Signal :=
  scenario.rows.flatMap (scenario.rowSignals (backgroundSignals background))

end Scenario

/-- The signals of a feature of which these scenarios are selected. -/
def Feature.signals (feature : Feature) (selected : List Scenario) : List Signal :=
  .featureStarted feature ::
    (selected.flatMap (Scenario.signals feature.background) ++ [.featureFinished feature])

/-- The signals of a move. -/
def Move.signals : Move → List Signal
  | .openRow _ scenario row => [scenario.opening row]
  | .step row own => own.signals row
  | .closeRow scenario row => [scenario.closing row]

namespace Scenario

theorem flatMap_signals_rowMoves (sharing : RowSharing) (scenario : Scenario)
    (before : List Move) (row : Record) :
    (scenario.rowMoves sharing before row).flatMap Move.signals =
      scenario.rowSignals (before.flatMap Move.signals) row := by
  have own : (scenario.steps.map (Move.step row)).flatMap Move.signals =
      scenario.steps.flatMap (Step.signals row) := by
    rw [List.flatMap_map]
    rfl
  rw [rowMoves, List.flatMap_cons, List.flatMap_append, List.flatMap_append, own]
  rfl

theorem flatMap_signals_backgroundMoves (background : Option Scenario) :
    (backgroundMoves background).flatMap Move.signals = backgroundSignals background := by
  cases background with
  | none => rfl
  | some background =>
      rw [backgroundMoves, List.flatMap_assoc, backgroundSignals]
      congr 1
      funext row
      exact flatMap_signals_rowMoves ⟨true, true⟩ background [] row

theorem flatMap_signals_outlineMoves (background : Option Scenario) (selected : List Scenario) :
    ((outlineRows selected).flatMap (outlineMoves background)).flatMap Move.signals =
      selected.flatMap (signals background) := by
  have each (row : Scenario × Record) :
      (outlineMoves background row).flatMap Move.signals =
        row.1.rowSignals (backgroundSignals background) row.2 := by
    rw [outlineMoves, flatMap_signals_rowMoves, flatMap_signals_backgroundMoves]
  rw [List.flatMap_assoc, outlineRows, List.flatMap_assoc]
  congr 1
  funext scenario
  rw [List.flatMap_map, signals]
  congr 1
  funext row
  exact each (scenario, row)

end Scenario

/-- The end of a step closes the context of earlier events if these end with the beginning of the
step, or with an invocation directly after it, and the context is the one that was told there or
that the action left, apart from the recorder. -/
def Journal.Closes (earlier : Journal) (ended : StepContext) : Prop :=
  ∃ front started,
    (earlier = front ++ [.callback (.stepStarted started)] ∧
      ended = { started with recorder := ended.recorder }) ∨
    ∃ groups after,
      earlier = front ++ [.callback (.stepStarted started),
        .invocation { started with matched := groups } after] ∧
      ended = { after with recorder := ended.recorder }

/-- The steps of events are paired if every end of a step closes the context of the events before
it. -/
def Journal.Paired (events : Journal) : Prop :=
  ∀ (earlier : Journal) (ended : StepContext) (result : Result) (later : Journal),
    events = earlier ++ .callback (.stepFinished ended result) :: later → earlier.Closes ended

namespace Journal

theorem Closes.append {earlier : Journal} {ended : StepContext} (closes : earlier.Closes ended)
    (front : Journal) : Closes (front ++ earlier) ended := by
  obtain ⟨before, started, ⟨rfl, same⟩ | ⟨groups, after, rfl, same⟩⟩ := closes
  · exact ⟨front ++ before, started, .inl ⟨(List.append_assoc ..).symm, same⟩⟩
  · exact ⟨front ++ before, started, .inr ⟨groups, after, (List.append_assoc ..).symm, same⟩⟩

theorem paired_of_not_mem {events : Journal}
    (none : ∀ ended result, JournalEntry.callback (.stepFinished ended result) ∉ events) :
    events.Paired := by
  intro earlier ended result later same
  apply absurd _ (none ended result)
  simp [same]

/-- The ends of steps among later events may close contexts of the events before. -/
theorem Paired.append_of {first second : Journal} (front : first.Paired)
    (back : ∀ earlier ended result later,
      second = earlier ++ .callback (.stepFinished ended result) :: later →
        Closes (first ++ earlier) ended) :
    Paired (first ++ second) := by
  intro earlier ended result later same
  rcases List.append_eq_append_iff.mp same with ⟨between, rfl, rest⟩ | ⟨between, whole, rest⟩
  · exact back between ended result later rest
  · cases between with
    | nil =>
        have closes := back [] ended result later rest.symm
        rw [whole, List.append_nil, List.append_nil] at closes
        exact closes
    | cons entry others =>
        injection rest with sameEntry
        rw [← sameEntry] at whole
        exact front earlier ended result others whole

theorem Paired.append {first second : Journal} (front : first.Paired) (back : second.Paired) :
    Paired (first ++ second) := by
  apply front.append_of
  intro earlier ended result later same
  exact (back earlier ended result later same).append first

/-- The end of a step that closes a context. -/
theorem Paired.concat {events : Journal} {ended : StepContext} (paired : events.Paired)
    (closes : events.Closes ended) (result : Result) :
    Paired (events ++ [.callback (.stepFinished ended result)]) := by
  apply paired.append_of
  intro earlier other otherResult later same
  cases earlier with
  | nil =>
      injection same with sameEntry
      injection sameEntry with sameCallback
      injection sameCallback with sameContext
      rw [List.append_nil, ← sameContext]
      exact closes
  | cons entry others =>
      injection same with _ nothing
      cases others <;> cases nothing

end Journal

theorem StepCourse.BelongsTo.paired {course : StepCourse} {context : StepContext}
    (belongs : course.BelongsTo context) : course.events.Paired := by
  let taken : Journal := .callback (.stepStarted course.started) ::
    course.invocation.toList.map fun contexts => .invocation contexts.1 contexts.2
  have paired : taken.Paired := by
    apply Journal.paired_of_not_mem
    intro ended result
    simp [taken]
  have closes : taken.Closes course.ended := by
    have kept := belongs.ended_eq
    refine ⟨[], course.started, ?_⟩
    cases invoked : course.invocation with
    | none =>
        rw [invoked] at kept
        exact .inl ⟨by simp [taken, invoked], kept⟩
    | some contexts =>
        rw [invoked] at kept
        have onStarted := belongs.invoked_started contexts.1 contexts.2 invoked
        refine .inr ⟨contexts.1.matched, contexts.2, ?_, kept⟩
        rw [← onStarted]
        simp [taken, invoked]
  have parts : course.events = taken ++ course.closing := rfl
  rw [parts, StepCourse.closing]
  cases course.outcome with
  | error abort =>
      rw [List.append_nil]
      exact paired
  | ok result => exact paired.concat closes result

/-- Events break off inside an action if they end with the beginning of a step and the invocation
of the action found for it, on the context just told, which raised something. -/
def BrokenOff (dispatcher : Dispatcher) (events : Journal) : Prop :=
  ∃ earlier started definition found failure after,
    events = earlier ++ [.callback (.stepStarted started),
      .invocation { started with matched := found.groups } after] ∧
    dispatcher.registry.find started.verb started.text = some (definition, found) ∧
    dispatcher.callIn definition { started with matched := found.groups } = (some failure, after)

theorem BrokenOff.append {dispatcher : Dispatcher} {events : Journal}
    (broken : BrokenOff dispatcher events) (front : Journal) :
    BrokenOff dispatcher (front ++ events) := by
  obtain ⟨earlier, started, definition, found, failure, after, rfl, raised⟩ := broken
  exact ⟨front ++ earlier, started, definition, found, failure, after,
    (List.append_assoc ..).symm, raised⟩

/-- A run is held up if it ends with the failure that holds up one of its moves, and the signals of
this move are the first ones that are missing. -/
def HeldUp (dispatcher : Dispatcher) (moves : List Move) (abort : Abort) (missing : List Signal) :
    Prop :=
  ∃ move ∈ moves, ∃ failure later, dispatcher.obstacle? move = some failure ∧
    abort = .exit failure ∧ missing = move.signals ++ later

theorem HeldUp.cons {dispatcher : Dispatcher} {moves : List Move} {abort : Abort}
    {missing : List Signal} (held : HeldUp dispatcher moves abort missing) (move : Move) :
    HeldUp dispatcher (move :: moves) abort missing := by
  obtain ⟨other, among, holds⟩ := held
  exact ⟨other, List.mem_cons_of_mem move among, holds⟩

theorem HeldUp.append {dispatcher : Dispatcher} {moves : List Move} {abort : Abort}
    {missing : List Signal} (held : HeldUp dispatcher moves abort missing)
    (others : List Signal) : HeldUp dispatcher moves abort (missing ++ others) := by
  obtain ⟨move, among, failure, later, holds, ends, rfl⟩ := held
  exact ⟨move, among, failure, later ++ others, holds, ends, List.append_assoc ..⟩

namespace Dispatcher

variable (dispatcher : Dispatcher)

@[simp]
theorem signal_rowStarted (scenario : Scenario) (row : Record) (longestLine : Value) :
    (rowStarted scenario row longestLine).signal = scenario.opening row := by
  unfold rowStarted Scenario.opening
  split <;> rfl

@[simp]
theorem signal_rowFinished (scenario : Scenario) (row : Record) :
    (rowFinished scenario row).signal = scenario.closing row := by
  unfold rowFinished Scenario.closing
  split <;> rfl

theorem signal_stepStarted (row : Record) (step : Step) (standing : Standing) :
    (Callback.stepStarted (dispatcher.stepCourse row step standing).started).signal =
      .stepStarted step step.verb.lower (step.shownText row) := by
  have belongs := dispatcher.stepCourse_belongsTo row step standing
  rw [Callback.signal, belongs.started_step, belongs.started_verb, belongs.started_text]
  rfl

theorem signal_stepFinished (row : Record) (step : Step) (standing : Standing)
    (result : Result) :
    (Callback.stepFinished (dispatcher.stepCourse row step standing).ended result).signal =
      .stepFinished step step.verb.lower := by
  have belongs := dispatcher.stepCourse_belongsTo row step standing
  rw [Callback.signal, belongs.ended_step, belongs.ended_verb]
  rfl

theorem paired_passage (move : Move) (standing : Standing) :
    (dispatcher.passage move standing).events.Paired := by
  cases obstacle : dispatcher.obstacle? move with
  | some failure =>
      rw [dispatcher.passage_of_obstacle obstacle]
      exact Journal.paired_of_not_mem (by simp [Passage.held])
  | none =>
    cases move with
    | openRow sharing scenario row =>
        apply Journal.paired_of_not_mem
        intro ended result
        rw [dispatcher.passage_openRow (Option.map_eq_none_iff.mp obstacle), rowStarted]
        split <;> simp
    | closeRow scenario row =>
        apply Journal.paired_of_not_mem
        intro ended result
        rw [passage_closeRow, rowFinished]
        split <;> simp
    | step row step =>
        rw [dispatcher.events_passage_step obstacle]
        exact (dispatcher.stepCourse_belongsTo row step standing).paired

theorem paired_walk (moves : List Move) (standing : Standing) :
    (dispatcher.walk moves standing).events.Paired := by
  induction moves generalizing standing with
  | nil => exact Journal.paired_of_not_mem (by simp [walk, Passage.still])
  | cons move rest ih =>
      have own := dispatcher.paired_passage move standing
      cases outcome : (dispatcher.passage move standing).outcome with
      | error abort =>
          rw [dispatcher.walk_cons_of_error outcome]
          exact own
      | ok results =>
          rw [dispatcher.walk_cons_of_ok outcome]
          exact own.append (ih _)

theorem signals_passage_of_ok {move : Move} {standing : Standing} {results : List Result}
    (returns : (dispatcher.passage move standing).outcome = .ok results) :
    (dispatcher.passage move standing).events.callbacks.map Callback.signal = move.signals := by
  cases move with
  | openRow sharing scenario row =>
      rw [dispatcher.passage_openRow_of_returns returns]
      exact congrArg (· :: []) (signal_rowStarted scenario row _)
  | closeRow scenario row =>
      rw [passage_closeRow]
      exact congrArg (· :: []) (signal_rowFinished scenario row)
  | step row step =>
      obtain ⟨result, ready, -, outcome⟩ := dispatcher.passage_step_returns returns
      rw [dispatcher.events_passage_step ready, StepCourse.callbacks_events, outcome]
      simp only [List.map_cons, List.map_nil, signal_stepStarted, signal_stepFinished]
      rfl

theorem signals_ne_nil (move : Move) : move.signals ≠ [] := by
  cases move <;> exact List.cons_ne_nil _ _

/-- A move that ends the run breaks off inside an action, after its first signal, or is held up. -/
theorem signals_passage_of_error {move : Move} {standing : Standing} {abort : Abort}
    (ends : (dispatcher.passage move standing).outcome = .error abort) :
    ∃ missing, missing ≠ [] ∧
      move.signals =
        (dispatcher.passage move standing).events.callbacks.map Callback.signal ++ missing ∧
      (BrokenOff dispatcher (dispatcher.passage move standing).events ∨
        HeldUp dispatcher [move] abort missing) := by
  cases obstacle : dispatcher.obstacle? move with
  | some failure =>
      rw [dispatcher.passage_of_obstacle obstacle] at ends ⊢
      cases ends
      refine ⟨move.signals, signals_ne_nil move, rfl, .inr ⟨move, List.mem_cons_self, ?_⟩⟩
      exact ⟨failure, [], obstacle, rfl, (List.append_nil _).symm⟩
  | none =>
    cases move with
    | openRow sharing scenario row =>
        rw [dispatcher.passage_openRow (Option.map_eq_none_iff.mp obstacle)] at ends
        cases ends
    | closeRow scenario row => cases ends
    | step row step =>
        cases outcome : (dispatcher.stepCourse row step standing).outcome with
        | ok result =>
            rw [dispatcher.passage_step_of_ok obstacle outcome] at ends
            cases ends
        | error other =>
            obtain ⟨definition, found, failure, after, sought, invoked, raised⟩ :=
              dispatcher.stepCourse_of_error outcome
            rw [dispatcher.passage_step_of_error obstacle outcome]
            refine ⟨[.stepFinished step step.verb.lower], List.cons_ne_nil _ _, ?_, .inl ?_⟩
            · rw [StepCourse.callbacks_events, outcome]
              simp only [List.map_cons, List.map_nil, signal_stepStarted]
              rfl
            · refine ⟨[], _, definition, found, failure, after, ?_, sought, raised⟩
              rw [StepCourse.events, StepCourse.closing, invoked, outcome]
              rfl

theorem signals_walk_of_ok {moves : List Move} {standing : Standing} {results : List Result}
    (returns : (dispatcher.walk moves standing).outcome = .ok results) :
    (dispatcher.walk moves standing).events.callbacks.map Callback.signal =
      moves.flatMap Move.signals := by
  induction moves generalizing standing results with
  | nil => rfl
  | cons move rest ih =>
      obtain ⟨own, others, moved, walked, rfl⟩ := dispatcher.walk_cons_returns returns
      rw [dispatcher.walk_cons_of_ok moved, Journal.callbacks_append, List.map_append,
        dispatcher.signals_passage_of_ok moved, ih walked, List.flatMap_cons]

/-- A walk that ends the run breaks off inside an action or is held up, before it has given all
signals. -/
theorem signals_walk_of_error {moves : List Move} {standing : Standing} {abort : Abort}
    (ends : (dispatcher.walk moves standing).outcome = .error abort) :
    ∃ missing, missing ≠ [] ∧
      moves.flatMap Move.signals =
        (dispatcher.walk moves standing).events.callbacks.map Callback.signal ++ missing ∧
      (BrokenOff dispatcher (dispatcher.walk moves standing).events ∨
        HeldUp dispatcher moves abort missing) := by
  induction moves generalizing standing with
  | nil => cases ends
  | cons move rest ih =>
      rw [List.flatMap_cons]
      cases own : (dispatcher.passage move standing).outcome with
      | error other =>
          rw [dispatcher.walk_cons_of_error own] at ends ⊢
          cases ends
          obtain ⟨missing, some, missed, stopped⟩ := dispatcher.signals_passage_of_error own
          refine ⟨missing ++ rest.flatMap Move.signals, by simp [some], ?_, ?_⟩
          · rw [missed, List.append_assoc]
          · refine stopped.imp_right fun held => ?_
            obtain ⟨other, among, holds⟩ := held.append (rest.flatMap Move.signals)
            obtain rfl := List.mem_singleton.mp among
            exact ⟨other, List.mem_cons_self, holds⟩
      | ok results =>
          rw [dispatcher.walk_cons_of_ok own] at ends ⊢
          cases others : (dispatcher.walk rest
            (dispatcher.passage move standing).standing).outcome with
          | ok later =>
              rw [others] at ends
              cases ends
          | error other =>
              rw [others] at ends
              cases ends
              obtain ⟨missing, some, missed, stopped⟩ := ih others
              refine ⟨missing, some, ?_, stopped.imp (·.append _) (·.cons move)⟩
              rw [Journal.callbacks_append, List.map_append,
                dispatcher.signals_passage_of_ok own, missed, List.append_assoc]

theorem flatMap_signals_featureMoves (selection : Selection) (feature : Feature) :
    (featureMoves selection feature).flatMap Move.signals =
      (selection.apply feature).flatMap (Scenario.signals feature.background) :=
  Scenario.flatMap_signals_outlineMoves feature.background (selection.apply feature)

theorem signals_featurePassage_of_ok {selection : Selection} {feature : Feature}
    {standing : Standing} {results : List Result}
    (returns : (dispatcher.featureWalk selection feature standing).outcome = .ok results) :
    (dispatcher.featurePassage selection feature standing).events.callbacks.map
        Callback.signal =
      feature.signals (selection.apply feature) := by
  rw [featurePassage_of_ok returns]
  rw [featureWalk] at returns ⊢
  simp only [Journal.callbacks_cons, Journal.callbacks_append, List.map_cons, List.map_append]
  rw [dispatcher.signals_walk_of_ok returns, flatMap_signals_featureMoves]
  rfl

theorem signals_featurePassage_of_error {selection : Selection} {feature : Feature}
    {standing : Standing} {abort : Abort}
    (ends : (dispatcher.featureWalk selection feature standing).outcome = .error abort) :
    ∃ missing, missing ≠ [] ∧
      feature.signals (selection.apply feature) =
        (dispatcher.featurePassage selection feature standing).events.callbacks.map
          Callback.signal ++ missing ∧
      (BrokenOff dispatcher (dispatcher.featurePassage selection feature standing).events ∨
        HeldUp dispatcher (featureMoves selection feature) abort missing) := by
  rw [featurePassage_of_error ends]
  rw [featureWalk] at ends ⊢
  obtain ⟨missing, some, missed, stopped⟩ := dispatcher.signals_walk_of_error ends
  refine ⟨missing ++ [.featureFinished feature], by simp, ?_,
    stopped.imp (·.append [_]) (·.append [.featureFinished feature])⟩
  rw [Feature.signals, ← flatMap_signals_featureMoves, missed, Journal.callbacks_cons,
    List.map_cons, List.append_assoc]
  rfl

theorem paired_featurePassage (selection : Selection) (feature : Feature) (standing : Standing) :
    (dispatcher.featurePassage selection feature standing).events.Paired := by
  have first : Journal.Paired [.callback (.featureStarted feature)] :=
    Journal.paired_of_not_mem (by simp)
  have last : Journal.Paired [.callback (.featureFinished feature)] :=
    Journal.paired_of_not_mem (by simp)
  have walked : (dispatcher.featureWalk selection feature standing).events.Paired :=
    dispatcher.paired_walk _ _
  cases ending : (dispatcher.featureWalk selection feature standing).outcome with
  | ok results =>
      rw [featurePassage_of_ok ending]
      exact first.append (walked.append last)
  | error abort =>
      rw [featurePassage_of_error ending]
      exact first.append walked

/-- The callback protocol.  A run of a feature that returns gives exactly the signals of the feature
and the selected scenarios.  A run that ends early gives a part of them that lacks some at the end:
either its events break off inside an action, or it is held up in front of a row or a step, whose
signals are the next ones.  In every case, each end of a step is told on the context that was told
at its beginning. -/
theorem runFeature_signals (selection : Selection) (feature : Feature) (state : RunState) :
    ∃ events : Journal,
      ((dispatcher.runFeature selection feature).run state).2.observer.journal.events =
        state.observer.journal.events ++ events ∧
      events.Paired ∧
      match ((dispatcher.runFeature selection feature).run state).1 with
      | .ok _ =>
        events.callbacks.map Callback.signal = feature.signals (selection.apply feature)
      | .error abort =>
        ∃ missing, missing ≠ [] ∧
          feature.signals (selection.apply feature) =
            events.callbacks.map Callback.signal ++ missing ∧
          (BrokenOff dispatcher events ∨
            HeldUp dispatcher (featureMoves selection feature) abort missing) := by
  obtain ⟨observer, grown, runs⟩ := dispatcher.exists_run_runFeature selection feature state
  rw [runs]
  refine ⟨_, grown, dispatcher.paired_featurePassage selection feature state.standing, ?_⟩
  rw [outcome_featurePassage]
  cases ending : (dispatcher.featureWalk selection feature state.standing).outcome with
  | ok results => exact dispatcher.signals_featurePassage_of_ok ending
  | error abort => exact dispatcher.signals_featurePassage_of_error ending

end Dispatcher

end FeatureRunner
