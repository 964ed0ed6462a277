import FeatureRunner.Proofs.Run.Dispatching
import FeatureRunner.Proofs.Run.Moves

/-!
# Walking through moves

What comes of a move depends only on where the run stands: on its stashes and on its short
circuit.  The passage of a move is everything that comes of it, as a value; the walk through a
list of moves puts their passages together and stops where one of them ends the run.  A move that is
held up ends the run with nothing happening.

This file computes walks, and proves that making moves follows the walk, whoever observes the
run.
-/

namespace FeatureRunner

/-- The short circuit after a result. -/
def ShortCircuit.noting (circuit : ShortCircuit) (result : Result) : ShortCircuit :=
  if result.passed then circuit else circuit.arm

theorem ShortCircuit.count_noting (circuit : ShortCircuit) (result : Result) :
    (circuit.noting result).count = circuit.count + if result.passed then 0 else 1 := by
  unfold noting arm
  cases result.passed <;> simp

/-- Where a run stands: what a step can find of the steps before it. -/
structure Standing where
  featureStash : Record
  scenarioStash : Record
  shortCircuit : ShortCircuit

/-- Where a run stands in a state. -/
def RunState.standing (state : RunState) : Standing :=
  ⟨state.featureStash, state.scenarioStash, state.shortCircuit⟩

namespace Standing

/-- The state of a run that stands somewhere, with its observer. -/
def observedBy (standing : Standing) (observer : Observer) : RunState :=
  ⟨observer, standing.featureStash, standing.scenarioStash, standing.shortCircuit⟩

@[simp]
theorem standing_observedBy (standing : Standing) (observer : Observer) :
    (standing.observedBy observer).standing = standing :=
  rfl

@[simp]
theorem observer_observedBy (standing : Standing) (observer : Observer) :
    (standing.observedBy observer).observer = observer :=
  rfl

/-- Where a run stands at the beginning of a row. -/
def enterRow (sharing : RowSharing) (standing : Standing) : Standing :=
  { standing with
    scenarioStash := if sharing.stash then standing.scenarioStash else []
    shortCircuit := if sharing.shortCircuit then standing.shortCircuit else .idle }

/-- Where a run stands after a step has taken its course, the result not yet looked at. -/
def leftBy (standing : Standing) (course : StepCourse) : Standing :=
  { standing with
    featureStash := course.ended.stash.feature
    scenarioStash := course.ended.stash.scenario }

/-- Where a run stands after a result. -/
def noting (standing : Standing) (result : Result) : Standing :=
  { standing with shortCircuit := standing.shortCircuit.noting result }

end Standing

/-- What comes of a part of a run: the events, the value unless the run ended, and where the run
stands afterwards. -/
structure Passage (α : Type) where
  events : Journal
  outcome : Except Abort α
  standing : Standing

namespace Passage

variable {α β : Type}

/-- Nothing happens, and the run goes on with a value. -/
def still (value : α) (standing : Standing) : Passage α := ⟨[], .ok value, standing⟩

/-- The observer is told something. -/
def telling (callback : Callback) (standing : Standing) : Passage Unit :=
  ⟨[.callback callback], .ok (), standing⟩

/-- The run ends in front of a move that is held up. -/
def held (failure : Failure) (standing : Standing) : Passage α :=
  ⟨[], .error (.exit failure), standing⟩

/-- One part of a run and then the next, unless the run ended. -/
def andThen (first : Passage α) (next : α → Standing → Passage β) : Passage β :=
  match first.outcome with
  | .ok value =>
    ⟨first.events ++ (next value first.standing).events, (next value first.standing).outcome,
      (next value first.standing).standing⟩
  | .error abort => ⟨first.events, .error abort, first.standing⟩

/-- The same part of a run with a value made from its value. -/
def map (make : α → β) (passage : Passage α) : Passage β :=
  ⟨passage.events, passage.outcome.map make, passage.standing⟩

end Passage

namespace RunM

variable {α β : Type}

/-- A computation follows a passage if its events are those of the passage and it ends as the
passage does.  When the listener has no place for one of its callbacks, the run ends there. -/
def Follows (run : RunM α) (state : RunState) (passage : Passage α) : Prop :=
  match state.observer.listener.toldAll? passage.events.callbacks with
  | some listener =>
    ∃ journal : Journal, journal.events = state.observer.journal.events ++ passage.events ∧
      run.run state = (passage.outcome, passage.standing.observedBy ⟨journal, listener⟩)
  | none => (run.run state).1 = .error .nothingOpen

theorem pure_follows (value : α) (state : RunState) :
    (pure value : RunM α).Follows state (.still value state.standing) :=
  ⟨state.observer.journal, (List.append_nil _).symm, rfl⟩

theorem run_tell (callback : Callback) (state : RunState) :
    (tell callback).run state =
      ((state.observer.tell callback).1,
        { state with observer := (state.observer.tell callback).2 }) :=
  rfl

theorem tell_follows (callback : Callback) (state : RunState) :
    (tell callback).Follows state (.telling callback state.standing) := by
  have asked : state.observer.listener.toldAll?
      (Passage.telling callback state.standing).events.callbacks =
        state.observer.listener.told? callback :=
    state.observer.listener.toldAll?_singleton callback
  unfold Follows
  rw [asked, run_tell, Observer.tell_eq]
  cases state.observer.listener.told? callback with
  | none => rfl
  | some listener => exact ⟨_, Journal.events_append _ _, rfl⟩

/-- What comes after a change of standing follows a passage from there on. -/
theorem Follows.of_run_eq {run rest : RunM α} {state after : RunState} {passage : Passage α}
    (runs : run.run state = rest.run after) (quiet : after.observer.Agrees state.observer)
    (follows : rest.Follows after passage) : run.Follows state passage := by
  unfold Follows at follows ⊢
  rw [runs, ← quiet.1, ← quiet.2]
  exact follows

/-- Computations in order follow their passages in order. -/
theorem Follows.bind {first : RunM α} {next : α → RunM β} {state : RunState}
    {passage : Passage α} {others : α → Standing → Passage β}
    (front : first.Follows state passage)
    (back : ∀ (value : α) (after : RunState),
      (next value).Follows after (others value after.standing)) :
    (first >>= next).Follows state (passage.andThen others) := by
  unfold Follows at front
  cases outcome : passage.outcome with
  | error abort =>
      simp only [Follows, Passage.andThen, outcome] at front ⊢
      cases told : state.observer.listener.toldAll? passage.events.callbacks with
      | none =>
          rw [told] at front
          exact run_bind_fst_of_error front
      | some listener =>
          rw [told] at front
          obtain ⟨journal, grown, ended⟩ := front
          exact ⟨journal, grown, run_bind_of_error ended⟩
  | ok value =>
      simp only [Follows, Passage.andThen, outcome, Journal.callbacks_append,
        Listener.toldAll?_append] at front ⊢
      cases told : state.observer.listener.toldAll? passage.events.callbacks with
      | none =>
          rw [told] at front
          exact run_bind_fst_of_error front
      | some listener =>
          rw [told] at front
          obtain ⟨journal, grown, returned⟩ := front
          have rest := back value (passage.standing.observedBy ⟨journal, listener⟩)
          unfold Follows at rest
          rw [run_bind_of_ok returned, Option.bind_some]
          simp only [Standing.standing_observedBy, Standing.observer_observedBy] at rest
          cases later : listener.toldAll? (others value passage.standing).events.callbacks with
          | none =>
              rw [later] at rest
              exact rest
          | some final =>
              rw [later] at rest
              obtain ⟨whole, grownAgain, runs⟩ := rest
              rw [grown, List.append_assoc] at grownAgain
              exact ⟨whole, grownAgain, runs⟩

theorem Follows.map {run : RunM α} {state : RunState} {passage : Passage α}
    (follows : run.Follows state passage) (make : α → β) :
    (do return make (← run)).Follows state (passage.map make) := by
  unfold Follows at follows ⊢
  simp only [Passage.map]
  cases told : state.observer.listener.toldAll? passage.events.callbacks with
  | none =>
      rw [told] at follows
      exact run_bind_fst_of_error follows
  | some listener =>
      rw [told] at follows
      obtain ⟨journal, grown, runs⟩ := follows
      refine ⟨journal, grown, ?_⟩
      rw [run_bind, runs]
      cases passage.outcome <;> rfl

/-- Following a passage whose callbacks all have a place. -/
theorem Follows.run_eq {run : RunM α} {state : RunState} {passage : Passage α}
    {listener : Listener} (follows : run.Follows state passage)
    (told : state.observer.listener.toldAll? passage.events.callbacks = some listener) :
    ∃ journal : Journal, journal.events = state.observer.journal.events ++ passage.events ∧
      run.run state = (passage.outcome, passage.standing.observedBy ⟨journal, listener⟩) := by
  unfold Follows at follows
  rw [told] at follows
  exact follows

/-- A computation that returns has told the listener all its callbacks. -/
theorem Follows.exists_told_of_ok {run : RunM α} {state : RunState} {passage : Passage α}
    {value : α} (follows : run.Follows state passage) (returns : (run.run state).1 = .ok value) :
    ∃ observer : Observer,
      observer.journal.events = state.observer.journal.events ++ passage.events ∧
      state.observer.listener.toldAll? passage.events.callbacks = some observer.listener ∧
      passage.outcome = .ok value ∧
      run.run state = (.ok value, passage.standing.observedBy observer) := by
  cases told : state.observer.listener.toldAll? passage.events.callbacks with
  | none =>
      unfold Follows at follows
      rw [told, returns] at follows
      cases follows
  | some listener =>
      obtain ⟨journal, grown, runs⟩ := follows.run_eq told
      rw [runs] at returns
      have sameOutcome : passage.outcome = .ok value := returns
      rw [sameOutcome] at runs
      exact ⟨⟨journal, listener⟩, grown, rfl, sameOutcome, runs⟩

theorem Follows.run_eq_of_ok {run : RunM α} {state : RunState} {passage : Passage α}
    {value : α} (follows : run.Follows state passage) (returns : (run.run state).1 = .ok value) :
    ∃ observer : Observer,
      observer.journal.events = state.observer.journal.events ++ passage.events ∧
      passage.outcome = .ok value ∧
      run.run state = (.ok value, passage.standing.observedBy observer) := by
  obtain ⟨observer, grown, -, sameOutcome, runs⟩ := follows.exists_told_of_ok returns
  exact ⟨observer, grown, sameOutcome, runs⟩

end RunM

/-- The text of a step that is shown for a row: with its placeholders filled in, if the row can
fill them. -/
def Step.shownText (row : Record) (step : Step) : Text :=
  match Template.expand step.text row with
  | .ok text => text
  | .error _ => step.text

namespace Dispatcher

variable (dispatcher : Dispatcher)

/-- The course of a step for a row, from where a run stands, if nothing holds the step up. -/
def stepCourse (row : Record) (step : Step) (standing : Standing) : StepCourse :=
  match Template.expand step.text row with
  | .ok text =>
    dispatcher.courseOf standing.shortCircuit.armed
      (.build step text standing.featureStash standing.scenarioStash)
  | .error unfilled =>
    if standing.shortCircuit.armed then
      .skipped (.build step step.text standing.featureStash standing.scenarioStash)
        shortCircuitResult
    else
      .unprepared (.build step step.text standing.featureStash standing.scenarioStash)
        unfilled.message

theorem stepCourse_belongsTo (row : Record) (step : Step) (standing : Standing) :
    (dispatcher.stepCourse row step standing).BelongsTo
      (.build step (step.shownText row) standing.featureStash standing.scenarioStash) := by
  unfold stepCourse Step.shownText
  split
  · exact dispatcher.courseOf_belongsTo _ _
  · split
    · exact StepCourse.skipped_belongsTo _ _
    · exact StepCourse.unprepared_belongsTo _ _

theorem stepCourse_of_error {row : Record} {step : Step} {standing : Standing} {abort : Abort}
    (ends : (dispatcher.stepCourse row step standing).outcome = .error abort) :
    (dispatcher.stepCourse row step standing).BreaksOff dispatcher := by
  unfold stepCourse at ends ⊢
  split at ends
  · exact dispatcher.courseOf_of_error ends
  · split at ends
    · cases ends
    · cases ends

/-- The passage of a step. -/
def stepPassage (row : Record) (step : Step) (standing : Standing) : Passage Result :=
  let course := dispatcher.stepCourse row step standing
  ⟨course.events, course.outcome, standing.leftBy course⟩

/-- The passage of a move that is not held up. -/
def readyPassage : Move → Standing → Passage (List Result)
  | .openRow sharing scenario row, standing =>
    let entered := standing.enterRow sharing
    let longestLine := (Record.get? entered.scenarioStash "longest_step_line".toList).getD .null
    (Passage.telling (rowStarted scenario row longestLine) entered).andThen fun _ =>
      Passage.still []
  | .step row step, standing =>
    (dispatcher.stepPassage row step standing).andThen fun result after =>
      .still [result] (after.noting result)
  | .closeRow scenario row, standing =>
    (Passage.telling (rowFinished scenario row) standing).andThen fun _ => Passage.still []

/-- The passage of a move. -/
def passage (move : Move) (standing : Standing) : Passage (List Result) :=
  match dispatcher.obstacle? move with
  | some failure => .held failure standing
  | none => dispatcher.readyPassage move standing

theorem passage_of_obstacle {move : Move} {failure : Failure}
    (held : dispatcher.obstacle? move = some failure) (standing : Standing) :
    dispatcher.passage move standing = .held failure standing := by
  rw [passage, held]

theorem passage_of_ready {move : Move} (ready : dispatcher.obstacle? move = none)
    (standing : Standing) :
    dispatcher.passage move standing = dispatcher.readyPassage move standing := by
  rw [passage, ready]

/-- A move that returns was not held up. -/
theorem ready_of_returns {move : Move} {standing : Standing} {results : List Result}
    (returns : (dispatcher.passage move standing).outcome = .ok results) :
    dispatcher.obstacle? move = none := by
  cases obstacle : dispatcher.obstacle? move with
  | none => rfl
  | some failure =>
      rw [dispatcher.passage_of_obstacle obstacle] at returns
      cases returns

theorem passage_openRow {row : Record} (ready : dispatcher.noticeFlaw? (.record row) = none)
    (sharing : RowSharing) (scenario : Scenario) (standing : Standing) :
    dispatcher.passage (.openRow sharing scenario row) standing =
      ⟨[.callback (rowStarted scenario row ((Record.get? (standing.enterRow sharing).scenarioStash
        "longest_step_line".toList).getD .null))], .ok [], standing.enterRow sharing⟩ :=
  dispatcher.passage_of_ready (by rw [obstacle?, ready, Option.map_none]) standing

/-- The beginning of a row that returns was not held up. -/
theorem passage_openRow_of_returns {sharing : RowSharing} {scenario : Scenario} {row : Record}
    {standing : Standing} {results : List Result}
    (returns : (dispatcher.passage (.openRow sharing scenario row) standing).outcome =
      .ok results) :
    dispatcher.passage (.openRow sharing scenario row) standing =
      ⟨[.callback (rowStarted scenario row ((Record.get? (standing.enterRow sharing).scenarioStash
        "longest_step_line".toList).getD .null))], .ok [], standing.enterRow sharing⟩ :=
  dispatcher.passage_openRow (Option.map_eq_none_iff.mp (dispatcher.ready_of_returns returns))
    sharing scenario standing

@[simp]
theorem passage_closeRow (scenario : Scenario) (row : Record) (standing : Standing) :
    dispatcher.passage (.closeRow scenario row) standing =
      ⟨[.callback (rowFinished scenario row)], .ok [], standing⟩ :=
  rfl

theorem passage_step_of_ok {row : Record} {step : Step} {standing : Standing} {result : Result}
    (ready : step.obstacle? row = none)
    (returns : (dispatcher.stepCourse row step standing).outcome = .ok result) :
    dispatcher.passage (.step row step) standing =
      ⟨(dispatcher.stepCourse row step standing).events, .ok [result],
        (standing.leftBy (dispatcher.stepCourse row step standing)).noting result⟩ := by
  have here : dispatcher.obstacle? (.step row step) = none := ready
  rw [dispatcher.passage_of_ready here]
  simp [readyPassage, stepPassage, Passage.andThen, Passage.still, returns]

theorem passage_step_of_error {row : Record} {step : Step} {standing : Standing}
    {abort : Abort} (ready : step.obstacle? row = none)
    (ends : (dispatcher.stepCourse row step standing).outcome = .error abort) :
    dispatcher.passage (.step row step) standing =
      ⟨(dispatcher.stepCourse row step standing).events, .error abort,
        standing.leftBy (dispatcher.stepCourse row step standing)⟩ := by
  have here : dispatcher.obstacle? (.step row step) = none := ready
  rw [dispatcher.passage_of_ready here]
  simp [readyPassage, stepPassage, Passage.andThen, ends]

theorem events_passage_step {row : Record} {step : Step} (ready : step.obstacle? row = none)
    (standing : Standing) :
    (dispatcher.passage (.step row step) standing).events =
      (dispatcher.stepCourse row step standing).events := by
  cases outcome : (dispatcher.stepCourse row step standing).outcome with
  | ok result => rw [dispatcher.passage_step_of_ok ready outcome]
  | error abort => rw [dispatcher.passage_step_of_error ready outcome]

/-- A step that returns was not held up, and its course has the result. -/
theorem passage_step_returns {row : Record} {step : Step} {standing : Standing}
    {results : List Result}
    (returns : (dispatcher.passage (.step row step) standing).outcome = .ok results) :
    ∃ result, step.obstacle? row = none ∧ results = [result] ∧
      (dispatcher.stepCourse row step standing).outcome = .ok result := by
  have ready : step.obstacle? row = none := dispatcher.ready_of_returns returns
  cases outcome : (dispatcher.stepCourse row step standing).outcome with
  | error abort =>
      rw [dispatcher.passage_step_of_error ready outcome] at returns
      cases returns
  | ok result =>
      rw [dispatcher.passage_step_of_ok ready outcome] at returns
      cases returns
      exact ⟨result, ready, rfl, rfl⟩

/-- The walk through moves. -/
def walk : List Move → Standing → Passage (List Result)
  | [], standing => .still [] standing
  | move :: rest, standing =>
    (dispatcher.passage move standing).andThen fun earlier after =>
      (walk rest after).map (earlier ++ ·)

theorem walk_cons_of_ok {move : Move} {rest : List Move} {standing : Standing}
    {earlier : List Result} (returns : (dispatcher.passage move standing).outcome = .ok earlier) :
    dispatcher.walk (move :: rest) standing =
      ⟨(dispatcher.passage move standing).events ++
          (dispatcher.walk rest (dispatcher.passage move standing).standing).events,
        (dispatcher.walk rest (dispatcher.passage move standing).standing).outcome.map
          (earlier ++ ·),
        (dispatcher.walk rest (dispatcher.passage move standing).standing).standing⟩ := by
  simp [walk, Passage.andThen, Passage.map, returns]

theorem walk_cons_of_error {move : Move} {rest : List Move} {standing : Standing}
    {abort : Abort} (ends : (dispatcher.passage move standing).outcome = .error abort) :
    dispatcher.walk (move :: rest) standing =
      ⟨(dispatcher.passage move standing).events, .error abort,
        (dispatcher.passage move standing).standing⟩ := by
  simp [walk, Passage.andThen, ends]

theorem walk_cons_of_obstacle {move : Move} {failure : Failure}
    (held : dispatcher.obstacle? move = some failure) (rest : List Move) (standing : Standing) :
    dispatcher.walk (move :: rest) standing = .held failure standing := by
  rw [walk, dispatcher.passage_of_obstacle held]
  rfl

/-- A walk that returns has made its first move and walked through the rest. -/
theorem walk_cons_returns {move : Move} {rest : List Move} {standing : Standing}
    {results : List Result}
    (returns : (dispatcher.walk (move :: rest) standing).outcome = .ok results) :
    ∃ earlier later, (dispatcher.passage move standing).outcome = .ok earlier ∧
      (dispatcher.walk rest (dispatcher.passage move standing).standing).outcome = .ok later ∧
      results = earlier ++ later := by
  cases own : (dispatcher.passage move standing).outcome with
  | error abort =>
      rw [dispatcher.walk_cons_of_error own] at returns
      cases returns
  | ok earlier =>
      rw [dispatcher.walk_cons_of_ok own] at returns
      cases others : (dispatcher.walk rest
        (dispatcher.passage move standing).standing).outcome with
      | error abort =>
          rw [others] at returns
          cases returns
      | ok later =>
          rw [others] at returns
          cases returns
          exact ⟨earlier, later, rfl, rfl, rfl⟩

/-- The walk through moves and then more goes on where the first part ends. -/
theorem walk_append_of_ok {first second : List Move} {standing : Standing}
    {earlier : List Result} (returns : (dispatcher.walk first standing).outcome = .ok earlier) :
    dispatcher.walk (first ++ second) standing =
      ⟨(dispatcher.walk first standing).events ++
          (dispatcher.walk second (dispatcher.walk first standing).standing).events,
        (dispatcher.walk second (dispatcher.walk first standing).standing).outcome.map
          (earlier ++ ·),
        (dispatcher.walk second (dispatcher.walk first standing).standing).standing⟩ := by
  induction first generalizing standing earlier with
  | nil =>
      cases returns
      rcases whole : dispatcher.walk second standing with ⟨events, _ | results, after⟩ <;>
        simp [walk, Passage.still, whole, Except.map]
  | cons move rest ih =>
      obtain ⟨own, others, moved, walked, rfl⟩ := dispatcher.walk_cons_returns returns
      rw [List.cons_append, dispatcher.walk_cons_of_ok moved, dispatcher.walk_cons_of_ok moved,
        ih walked]
      simp only [List.append_assoc, Passage.mk.injEq, true_and, and_true]
      cases (dispatcher.walk second (dispatcher.walk rest
        (dispatcher.passage move standing).standing).standing).outcome <;>
        simp [Except.map]

/-- A walk that ends the run early does not get to what would come later. -/
theorem walk_append_of_error {first second : List Move} {standing : Standing} {abort : Abort}
    (ends : (dispatcher.walk first standing).outcome = .error abort) :
    dispatcher.walk (first ++ second) standing = dispatcher.walk first standing := by
  induction first generalizing standing with
  | nil => cases ends
  | cons move rest ih =>
      cases own : (dispatcher.passage move standing).outcome with
      | error other =>
          rw [List.cons_append, dispatcher.walk_cons_of_error own,
            dispatcher.walk_cons_of_error own]
      | ok results =>
          rw [dispatcher.walk_cons_of_ok own] at ends ⊢
          rw [List.cons_append, dispatcher.walk_cons_of_ok own]
          cases others : (dispatcher.walk rest
            (dispatcher.passage move standing).standing).outcome with
          | error other =>
              rw [others] at ends
              cases ends
              rw [ih others, others]
          | ok later =>
              rw [others] at ends
              cases ends

open RunM

theorem dispatching_follows {context : StepContext} {dispatch : DispatchM Result}
    {state : RunState} {course : StepCourse}
    (follows : dispatch.Follows ⟨context, state.observer⟩ course) :
    (dispatching context dispatch).Follows state
      ⟨course.events, course.outcome, state.standing.leftBy course⟩ := by
  obtain ⟨observer, grown, ending⟩ := follows
  unfold RunM.Follows
  simp only at ending ⊢
  cases told : state.observer.listener.toldAll? course.events.callbacks with
  | none =>
      rw [told] at ending
      change (dispatch.run ⟨context, state.observer⟩).1 = _
      rw [ending]
  | some listener =>
      rw [told] at ending
      obtain ⟨rfl, runs⟩ := ending
      refine ⟨observer.journal, grown, ?_⟩
      change ((dispatch.run ⟨context, state.observer⟩).1, _) = _
      rw [runs]
      rfl

/-- Dispatching in a context leaves the stashes of the course, whatever becomes of the run. -/
theorem dispatching_leaves {context : StepContext} {dispatch : DispatchM Result}
    (state : RunState) {course : StepCourse}
    (follows : dispatch.Follows ⟨context, state.observer⟩ course) :
    ∃ observer : Observer,
      observer.journal.events = state.observer.journal.events ++ course.events ∧
      ((dispatching context dispatch).run state).2 =
        (state.standing.leftBy course).observedBy observer := by
  obtain ⟨observer, grown, ending⟩ := follows
  have leaves : (dispatch.run ⟨context, state.observer⟩).2 = ⟨course.ended, observer⟩ := by
    split at ending
    · rw [ending.2]
    · rw [ending]
  refine ⟨observer, grown, ?_⟩
  change RunState.mk (dispatch.run ⟨context, state.observer⟩).2.observer _ _ _ = _
  rw [leaves]
  rfl

theorem run_contextOf_of_copyable {step : Step} (copyable : step.isCopyable = true) (text : Text)
    (state : RunState) :
    (contextOf step text).run state =
      (.ok (.build step text state.featureStash state.scenarioStash), state) := by
  unfold contextOf
  rw [run_bind_of_ok (run_get state), if_pos copyable]
  rfl

theorem run_contextOf_of_not_copyable {step : Step} (tooDeep : step.isCopyable = false)
    (text : Text) (state : RunState) :
    (contextOf step text).run state = (.error (.exit tooDeepToCopy), state) := by
  unfold contextOf
  rw [run_bind_of_ok (run_get state), if_neg (Bool.eq_false_iff.mp tooDeep)]
  rfl

/-- A step that is held up ends the run, after a notice at most. -/
theorem exists_runStep_of_obstacle {row : Record} {step : Step} {failure : Failure}
    (held : step.obstacle? row = some failure) (state : RunState) :
    ∃ observer : Observer, observer.Agrees state.observer ∧
      (dispatcher.runStep row step).run state =
        (.error (.exit failure), state.standing.observedBy observer) := by
  unfold runStep
  rcases filled : Template.expand step.text row with ⟨name, text, _ | flaw⟩ | text
  · obtain ⟨deep, rfl⟩ := Step.uncopied_of_obstacle held (by simp [filled])
    have quiet := state.observer.give_agrees .warning "cukerun.core.executor"
      (UnfilledPlaceholder.message ⟨name, text, .missing⟩)
    refine ⟨_, quiet, (run_bind_of_ok (run_modify _ state)).trans ?_⟩
    exact run_bind_of_error (run_contextOf_of_not_copyable deep step.text _)
  · rw [Step.obstacle?, filled] at held
    cases held
    exact ⟨state.observer, .refl _, rfl⟩
  · obtain ⟨deep, rfl⟩ := Step.uncopied_of_obstacle held (by simp [filled])
    exact ⟨state.observer, .refl _,
      run_bind_of_error (run_contextOf_of_not_copyable deep text state)⟩

/-- Running a step that is not held up is dispatching that follows its course, after a notice at
most. -/
theorem exists_runStep_eq {row : Record} {step : Step} (ready : step.obstacle? row = none)
    (state : RunState) :
    ∃ (context : StepContext) (dispatch : DispatchM Result) (observer : Observer),
      observer.Agrees state.observer ∧
      dispatch.Follows ⟨context, observer⟩ (dispatcher.stepCourse row step state.standing) ∧
      (dispatcher.runStep row step).run state =
        (dispatching context dispatch).run (state.standing.observedBy observer) := by
  have copyable := Step.isCopyable_of_ready ready
  unfold Step.obstacle? at ready
  unfold runStep stepCourse
  generalize Template.expand step.text row = expanded at ready ⊢
  rcases expanded with ⟨name, text, _ | flaw⟩ | text
  · let reason := UnfilledPlaceholder.message ⟨name, text, .missing⟩
    let noticed := state.observer.give .warning "cukerun.core.executor" reason
    refine ⟨.build step step.text state.featureStash state.scenarioStash,
      if state.shortCircuit.armed then dispatcher.dispatch true else failStep reason,
      noticed, Observer.give_agrees .., ?_, ?_⟩
    · by_cases armed : state.shortCircuit.armed
      · simp only [RunState.standing, armed, if_true]
        exact dispatcher.dispatch_follows true _
      · simp only [RunState.standing, armed]
        exact failStep_follows reason _
    · refine (run_bind_of_ok (run_modify _ state)).trans ?_
      have built := run_contextOf_of_copyable copyable step.text
        (state.standing.observedBy noticed)
      refine (run_bind_of_ok built).trans ?_
      exact (run_bind_of_ok (run_get (state.standing.observedBy noticed))).trans rfl
  · cases ready
  · refine ⟨_, _, state.observer, .refl _, dispatcher.dispatch_follows _ _, ?_⟩
    have built := run_contextOf_of_copyable copyable text state
    exact (run_bind_of_ok built).trans (run_bind_of_ok (run_get state))

theorem runStep_follows {row : Record} {step : Step} (ready : step.obstacle? row = none)
    (state : RunState) :
    (dispatcher.runStep row step).Follows state
      (dispatcher.stepPassage row step state.standing) := by
  obtain ⟨context, dispatch, observer, quiet, follows, runs⟩ :=
    dispatcher.exists_runStep_eq ready state
  have followed : (dispatching context dispatch).Follows (state.standing.observedBy observer)
      (dispatcher.stepPassage row step state.standing) := dispatching_follows follows
  exact .of_run_eq runs quiet followed

/-- A step that returns was not held up. -/
theorem ready_of_runStep_returns {row : Record} {step : Step} {state : RunState} {result : Result}
    (returns : ((dispatcher.runStep row step).run state).1 = .ok result) :
    step.obstacle? row = none := by
  cases obstacle : step.obstacle? row with
  | none => rfl
  | some failure =>
      obtain ⟨observer, -, ends⟩ := dispatcher.exists_runStep_of_obstacle obstacle state
      rw [ends] at returns
      cases returns

/-- A step leaves the stashes of its course, whatever becomes of the run. -/
theorem runStep_leaves {row : Record} {step : Step} (ready : step.obstacle? row = none)
    (state : RunState) :
    ∃ observer : Observer,
      observer.journal.events = state.observer.journal.events ++
        (dispatcher.stepCourse row step state.standing).events ∧
      ((dispatcher.runStep row step).run state).2 =
        (state.standing.leftBy
          (dispatcher.stepCourse row step state.standing)).observedBy observer := by
  obtain ⟨context, dispatch, observer, quiet, follows, runs⟩ :=
    dispatcher.exists_runStep_eq ready state
  obtain ⟨final, grown, leaves⟩ :=
    dispatching_leaves (state.standing.observedBy observer) follows
  rw [Standing.observer_observedBy, quiet.1] at grown
  exact ⟨final, grown, (congrArg Prod.snd runs).trans leaves⟩

theorem run_noticeRow_of_flaw {row : Record} {flaw : ShowFlaw}
    (unshown : dispatcher.noticeFlaw? (.record row) = some flaw) (scenario : Scenario)
    (state : RunState) :
    (dispatcher.noticeRow scenario row).run state =
      (.error (.exit (.ofShowFlaw flaw)), state) := by
  rw [noticeRow, unshown]
  rfl

theorem run_noticeRow {row : Record} (ready : dispatcher.noticeFlaw? (.record row) = none)
    (scenario : Scenario) (state : RunState) :
    ∃ observer : Observer, observer.Agrees state.observer ∧
      (dispatcher.noticeRow scenario row).run state =
        (.ok (), state.standing.observedBy observer) := by
  rw [noticeRow, ready]
  exact ⟨_, state.observer.give_agrees .., rfl⟩

/-- A move that is held up ends the run, after a notice at most. -/
theorem exists_runMove_of_obstacle {move : Move} {failure : Failure}
    (held : dispatcher.obstacle? move = some failure) (state : RunState) :
    ∃ observer : Observer, observer.Agrees state.observer ∧
      (dispatcher.runMove move).run state =
        (.error (.exit failure), state.standing.observedBy observer) := by
  cases move with
  | openRow sharing scenario row =>
      obtain ⟨flaw, unshown, rfl⟩ := Option.map_eq_some_iff.mp held
      exact ⟨state.observer, .refl _,
        run_bind_of_error (dispatcher.run_noticeRow_of_flaw unshown scenario state)⟩
  | step row step =>
      obtain ⟨observer, quiet, ends⟩ := dispatcher.exists_runStep_of_obstacle held state
      exact ⟨observer, quiet, run_bind_of_error ends⟩
  | closeRow scenario row => cases held

/-- Where a run ends without an event, it follows the passage of a move that is held up. -/
theorem follows_held {α : Type} {run : RunM α} {state : RunState} {failure : Failure}
    {observer : Observer} (quiet : observer.Agrees state.observer)
    (ends : run.run state = (.error (.exit failure), state.standing.observedBy observer)) :
    run.Follows state (.held failure state.standing) := by
  obtain ⟨journal, listener⟩ := observer
  obtain ⟨sameEvents, rfl⟩ := quiet
  exact ⟨journal, sameEvents.trans (List.append_nil _).symm, ends⟩

theorem runMove_follows_ready {move : Move} (ready : dispatcher.obstacle? move = none)
    (state : RunState) :
    (dispatcher.runMove move).Follows state (dispatcher.readyPassage move state.standing) := by
  cases move with
  | openRow sharing scenario row =>
      obtain ⟨observer, quiet, noticed⟩ :=
        dispatcher.run_noticeRow (Option.map_eq_none_iff.mp ready) scenario state
      refine .of_run_eq (run_bind_of_ok noticed) quiet ?_
      refine .of_run_eq (run_bind_of_ok (run_modify _ _)) (.refl _) ?_
      refine .of_run_eq (run_bind_of_ok (run_get _)) (.refl _) ?_
      exact (tell_follows _ _).bind fun _ => pure_follows []
  | step row step =>
      refine (dispatcher.runStep_follows ready state).bind fun result after => ?_
      unfold Standing.noting ShortCircuit.noting
      cases result.passed with
      | true => exact pure_follows [result] after
      | false =>
          refine .of_run_eq (run_bind_of_ok (run_modify RunState.arm after)) (.refl _) ?_
          exact pure_follows [result] after.arm
  | closeRow scenario row =>
      exact (tell_follows _ state).bind fun _ => pure_follows []

theorem runMove_follows (move : Move) (state : RunState) :
    (dispatcher.runMove move).Follows state (dispatcher.passage move state.standing) := by
  cases obstacle : dispatcher.obstacle? move with
  | none =>
      rw [dispatcher.passage_of_ready obstacle]
      exact dispatcher.runMove_follows_ready obstacle state
  | some failure =>
      obtain ⟨observer, quiet, ends⟩ := dispatcher.exists_runMove_of_obstacle obstacle state
      rw [dispatcher.passage_of_obstacle obstacle]
      exact follows_held quiet ends

/-- Making moves follows the walk through them. -/
theorem runMoves_follows (moves : List Move) (state : RunState) :
    (dispatcher.runMoves moves).Follows state (dispatcher.walk moves state.standing) := by
  induction moves generalizing state with
  | nil => exact pure_follows [] state
  | cons move rest ih =>
      refine (dispatcher.runMove_follows move state).bind fun earlier after => ?_
      exact (ih after).map (earlier ++ ·)

end Dispatcher

end FeatureRunner
