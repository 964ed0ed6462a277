import FeatureRunner.Proofs.Run.Signals

/-!
# Recovering from what actions raise

What an action raises is written down in its recorder, as an open task for a step marked as pending
and as a failed check for any other error, and the step gets a result.  There are three limits to
this: a request to leave the run is passed on, a failure whose text cannot be made cannot be written
down, and a recorder whose plan the action has already written takes no further assertions, so that
the run ends where the failure should have been written down.

This file proves that these are the only limits, for a single dispatch and for whole runs, apart
from rows and steps that are held up before anything is invoked for them.
-/

namespace FeatureRunner

namespace Dispatcher

/-- The failure that is raised when one tries to tell what an action raised, if there is one: the
text of a pending step, the notice about an error or the trace of an error cannot be made. -/
def untold? (dispatcher : Dispatcher) (failure : Failure) : Option Failure :=
  match failure.role with
  | .pending =>
    match failure.wording with
    | .error raised => some raised
    | .ok _ => none
  | .error =>
    match failure.detail.bind dispatcher.noticeFlaw? with
    | some flaw => some (.ofShowFlaw flaw)
    | none =>
      match failure.trace with
      | .error raised => some raised
      | .ok _ => none
  | .exit => none

end Dispatcher

namespace Recorder

variable {recorder : Recorder}

theorem exists_record?_of_open (isOpen : recorder.done = false) (kind : OutcomeKind)
    (name line : Text) :
    ∃ changed, recorder.record? kind name line = some changed ∧
      changed.outcomes = recorder.outcomes ++ [⟨kind, name⟩] :=
  ⟨_, record?_of_open isOpen kind name line, rfl⟩

theorem exists_todo?_of_open (isOpen : recorder.done = false) (name reason : Text) :
    ∃ changed, recorder.todo? name reason = some changed ∧
      changed.outcomes = recorder.outcomes ++ [⟨.todo, name⟩] :=
  exists_record?_of_open isOpen .todo name _

theorem exists_failed_of_open (isOpen : recorder.done = false) (name : Text) :
    ∃ changed, recorder.ok? false name = some changed ∧
      changed.outcomes = recorder.outcomes ++ [⟨.fail, name⟩] :=
  exists_record?_of_open isOpen .fail name _

@[simp]
theorem status_finish (recorder : Recorder) :
    recorder.finish.result.status = recorder.result.status := by
  unfold finish
  split <;> rfl

@[simp]
theorem status_diag (recorder : Recorder) (message : Text) :
    (recorder.diag message).result.status = recorder.result.status :=
  rfl

theorem status_of_failed {changed : Recorder} {name : Text}
    (written : changed.outcomes = recorder.outcomes ++ [⟨.fail, name⟩]) :
    changed.result.status = .failing := by
  simp [result, summary, Summary.status, count, written]

/-- One more open task makes the status pending, unless a check has failed. -/
theorem status_of_todo {changed : Recorder} {name : Text}
    (written : changed.outcomes = recorder.outcomes ++ [⟨.todo, name⟩]) :
    changed.result.status = if recorder.count .fail = 0 then .pending else .failing := by
  simp only [result, summary, Summary.status, count, written, List.countP_append]
  split <;> simp_all

/-- The status of a step whose action raised a failure. -/
def recoveredStatus (recorder : Recorder) (failure : Failure) : Status :=
  if failure.role = .pending ∧ recorder.count .fail = 0 then .pending else .failing

end Recorder

namespace Dispatcher

variable {dispatcher : Dispatcher} {recorder : Recorder} {failure : Failure}

/-- A failure that cannot be told ends the run, unless the written plan does. -/
theorem settle_of_untold {raised : Failure} (untold : dispatcher.untold? failure = some raised)
    (text : Text) :
    dispatcher.settle text recorder (some failure) = .error (.exit raised) ∨
      recorder.done = true ∧
        dispatcher.settle text recorder (some failure) = .error .closedRecorder := by
  unfold untold? at untold
  unfold settle
  cases role : failure.role with
  | exit => simp [role] at untold
  | pending =>
      cases wording : failure.wording with
      | ok words => simp [role, wording] at untold
      | error other =>
          obtain rfl : other = raised := by simpa [role, wording] using untold
          exact .inl (by simp only [role, wording])
  | error =>
      cases noticed : failure.detail.bind dispatcher.noticeFlaw? with
      | some flaw =>
          obtain rfl : Failure.ofShowFlaw flaw = raised := by simpa [role, noticed] using untold
          exact .inl (by simp only [role, noticed])
      | none =>
        cases trace : failure.trace with
        | ok lines => simp [role, noticed, trace] at untold
        | error other =>
            obtain rfl : other = raised := by simpa [role, noticed, trace] using untold
            -- The check that fails comes ahead of the trace.
            cases closed : recorder.done with
            | true =>
                exact .inr ⟨rfl, by
                  simp [role, noticed, Recorder.ok?, Recorder.record?_of_done closed]⟩
            | false =>
                obtain ⟨changed, accepted, -⟩ :=
                  Recorder.exists_failed_of_open closed "Step ran without raising".toList
                exact .inl (by simp only [role, noticed, accepted, trace])

variable (ordinary : failure.role ≠ .exit) (told : dispatcher.untold? failure = none)

include ordinary told

/-- After the plan, no failure is written down. -/
theorem settle_of_done (closed : recorder.done = true) (text : Text) :
    dispatcher.settle text recorder (some failure) = .error .closedRecorder := by
  unfold untold? at told
  unfold settle
  cases role : failure.role with
  | exit => exact absurd role ordinary
  | pending =>
      cases wording : failure.wording with
      | error raised => simp [role, wording] at told
      | ok words => simp [role, wording, Recorder.todo?, Recorder.record?_of_done closed]
  | error =>
      cases noticed : failure.detail.bind dispatcher.noticeFlaw? with
      | some flaw => simp [role, noticed] at told
      | none => simp [role, noticed, Recorder.ok?, Recorder.record?_of_done closed]

/-- Before the plan, every failure that asks for no exit and can be told is written down. -/
theorem settle_of_open (isOpen : recorder.done = false) (text : Text) :
    ∃ settled, dispatcher.settle text recorder (some failure) = .ok settled ∧
      settled.finish.result.status = recorder.recoveredStatus failure := by
  unfold untold? at told
  unfold settle
  cases role : failure.role with
  | exit => exact absurd role ordinary
  | pending =>
      cases wording : failure.wording with
      | error raised => simp [role, wording] at told
      | ok words =>
          obtain ⟨changed, accepted, written⟩ := Recorder.exists_todo?_of_open isOpen
            ("Step is pending: ".toList ++ text) words
          refine ⟨changed, by simp only [role, wording, accepted], ?_⟩
          rw [Recorder.status_finish, Recorder.status_of_todo written]
          simp [Recorder.recoveredStatus, role]
  | error =>
      cases noticed : failure.detail.bind dispatcher.noticeFlaw? with
      | some flaw => simp [role, noticed] at told
      | none =>
        cases trace : failure.trace with
        | error raised => simp [role, noticed, trace] at told
        | ok lines =>
            obtain ⟨changed, accepted, written⟩ :=
              Recorder.exists_failed_of_open isOpen "Step ran without raising".toList
            refine ⟨changed.diag (Text.stripRight lines),
              by simp only [role, noticed, accepted, trace], ?_⟩
            rw [Recorder.status_finish, Recorder.status_diag, Recorder.status_of_failed written]
            simp [Recorder.recoveredStatus, role]

omit ordinary told

/-- Settling succeeds exactly if the action raised nothing, or no exit, before the plan, and what it
raised can be told. -/
theorem exists_settle_iff (text : Text) (raised : Option Failure) :
    (∃ settled, dispatcher.settle text recorder raised = .ok settled) ↔
      ∀ failure, raised = some failure →
        failure.role ≠ .exit ∧ dispatcher.untold? failure = none ∧ recorder.done = false := by
  cases raised with
  | none =>
      constructor
      · rintro _ failure ⟨⟩
      · exact fun _ => ⟨recorder, rfl⟩
  | some failure =>
      constructor
      · rintro ⟨settled, returns⟩ other ⟨⟩
        have ordinary : failure.role ≠ .exit := by
          intro role
          simp [settle, role] at returns
        cases untold : dispatcher.untold? failure with
        | some raised =>
            rcases settle_of_untold untold text with ends | ⟨-, ends⟩ <;>
              cases ends.symm.trans returns
        | none =>
            refine ⟨ordinary, rfl, ?_⟩
            cases closed : recorder.done with
            | false => rfl
            | true => cases (settle_of_done ordinary untold closed text).symm.trans returns
      · intro recovers
        obtain ⟨ordinary, told, isOpen⟩ := recovers failure rfl
        obtain ⟨settled, returns, _⟩ := settle_of_open ordinary told isOpen text
        exact ⟨settled, returns⟩

end Dispatcher

/-- A course without an invocation has a result, and nothing to recover from. -/
theorem StepCourse.returns_iff_of_not_invoked {course : StepCourse} {result : Result}
    {Recovered : StepContext × StepContext → Prop} (returns : course.outcome = .ok result)
    (uninvoked : course.invocation = none) :
    (∃ result, course.outcome = .ok result) ↔
      ∀ invocation, course.invocation = some invocation → Recovered invocation := by
  constructor
  · intro _ invocation invoked
    rw [uninvoked] at invoked
    cases invoked
  · exact fun _ => ⟨result, returns⟩

namespace Dispatcher

variable (dispatcher : Dispatcher)

/-- What an action raises in a context, if anything, is no request to leave, can be told, and comes
before the action has written its plan. -/
def Recovers (definition : StepDefinition) (before : StepContext) : Prop :=
  ∀ failure, (dispatcher.callIn definition before).1 = some failure →
    failure.role ≠ .exit ∧ dispatcher.untold? failure = none ∧
      ((dispatcher.callIn definition before).2.recorder.getD .empty).done = false

/-- The action that was invoked recovers. -/
def Recovered (invocation : StepContext × StepContext) : Prop :=
  ∀ definition found,
    dispatcher.registry.find invocation.1.verb invocation.1.text = some (definition, found) →
      dispatcher.Recovers definition invocation.1

theorem courseOf_returns_iff (shortCircuit : Bool) (context : StepContext) :
    (∃ result, (dispatcher.courseOf shortCircuit context).outcome = .ok result) ↔
      ∀ invocation, (dispatcher.courseOf shortCircuit context).invocation = some invocation →
        dispatcher.Recovered invocation := by
  unfold courseOf
  split
  · exact StepCourse.returns_iff_of_not_invoked rfl rfl
  · split
    · exact StepCourse.returns_iff_of_not_invoked rfl rfl
    · next definition found sought =>
      have returns_iff : (∃ result,
          (dispatcher.invokedCourse context definition found).outcome = .ok result) ↔
          dispatcher.Recovers definition (actionContext context found) := by
        unfold Recovers
        rw [invokedCourse_outcome,
          ← exists_settle_iff (dispatcher.callIn definition (actionContext context found)).2.text]
        unfold settled
        cases dispatcher.settle _ _ _ <;> simp [Except.map]
      rw [returns_iff, invokedCourse_invocation]
      constructor
      · rintro recovers invocation ⟨⟩ other otherFound alsoSought
        have sameSearch : some (definition, found) = some (other, otherFound) :=
          sought.symm.trans alsoSought
        cases sameSearch
        exact recovers
      · intro recovered
        exact recovered _ rfl definition found sought

theorem stepCourse_returns_iff (row : Record) (step : Step) (standing : Standing) :
    (∃ result, (dispatcher.stepCourse row step standing).outcome = .ok result) ↔
      ∀ invocation, (dispatcher.stepCourse row step standing).invocation = some invocation →
        dispatcher.Recovered invocation := by
  unfold stepCourse
  split
  · exact dispatcher.courseOf_returns_iff _ _
  · split
    · exact StepCourse.returns_iff_of_not_invoked rfl rfl
    · exact StepCourse.returns_iff_of_not_invoked rfl rfl

theorem passage_returns_iff (move : Move) (standing : Standing) :
    (∃ results, (dispatcher.passage move standing).outcome = .ok results) ↔
      dispatcher.obstacle? move = none ∧
        ∀ invocation ∈ (dispatcher.passage move standing).events.invocations,
          dispatcher.Recovered invocation := by
  cases obstacle : dispatcher.obstacle? move with
  | some failure => simp [dispatcher.passage_of_obstacle obstacle, Passage.held]
  | none =>
    cases move with
    | openRow sharing scenario row =>
        rw [dispatcher.passage_openRow (Option.map_eq_none_iff.mp obstacle)]
        constructor
        · intro _
          exact ⟨rfl, fun invocation member => by cases member⟩
        · exact fun _ => ⟨[], rfl⟩
    | closeRow scenario row =>
        constructor
        · intro _
          exact ⟨rfl, fun invocation member => by cases member⟩
        · exact fun _ => ⟨[], rfl⟩
    | step row step =>
        have returns_iff := dispatcher.stepCourse_returns_iff row step standing
        have member_iff (invocation : StepContext × StepContext) :
            invocation ∈ (dispatcher.passage (.step row step) standing).events.invocations ↔
              (dispatcher.stepCourse row step standing).invocation = some invocation := by
          simp [dispatcher.events_passage_step obstacle]
        simp only [member_iff, ← returns_iff, true_and]
        cases outcome : (dispatcher.stepCourse row step standing).outcome with
        | ok result => simp [dispatcher.passage_step_of_ok obstacle outcome]
        | error abort => simp [dispatcher.passage_step_of_error obstacle outcome]

/-- A walk has its results exactly if none of its moves is held up and all actions it invokes
recover. -/
theorem walk_returns_iff (moves : List Move) (standing : Standing) :
    (∃ results, (dispatcher.walk moves standing).outcome = .ok results) ↔
      (∀ move ∈ moves, dispatcher.obstacle? move = none) ∧
        ∀ invocation ∈ (dispatcher.walk moves standing).events.invocations,
          dispatcher.Recovered invocation := by
  induction moves generalizing standing with
  | nil =>
      constructor
      · intro _
        exact ⟨by simp, fun invocation member => by cases member⟩
      · exact fun _ => ⟨[], rfl⟩
  | cons move rest ih =>
      have own_iff := dispatcher.passage_returns_iff move standing
      rw [List.forall_mem_cons]
      cases own : (dispatcher.passage move standing).outcome with
      | error abort =>
          rw [own] at own_iff
          rw [dispatcher.walk_cons_of_error own, and_right_comm, ← own_iff]
          simp
      | ok earlier =>
          obtain ⟨ready, recovered⟩ := own_iff.mp ⟨earlier, own⟩
          have others_iff := ih (dispatcher.passage move standing).standing
          have walked_iff : (∃ results, (dispatcher.walk (move :: rest) standing).outcome =
              .ok results) ↔ ∃ later, (dispatcher.walk rest
                (dispatcher.passage move standing).standing).outcome = .ok later := by
            rw [dispatcher.walk_cons_of_ok own]
            cases (dispatcher.walk rest (dispatcher.passage move standing).standing).outcome <;>
              simp [Except.map]
          rw [walked_iff, others_iff, dispatcher.walk_cons_of_ok own, Journal.invocations_append,
            List.forall_mem_append]
          exact ⟨fun ⟨others, later⟩ => ⟨⟨ready, others⟩, recovered, later⟩,
            fun ⟨⟨_, others⟩, _, later⟩ => ⟨others, later⟩⟩

section Raised

variable {context : StepContext} {observer : Observer} {definition : StepDefinition}
  {found : PatternMatch} {failure : Failure} {after : StepContext}
  (sought : dispatcher.registry.find context.verb context.text = some (definition, found))
  (called : dispatcher.callIn definition (actionContext context found) = (some failure, after))

include sought called

/-- A dispatch whose action raises something that is not written down ends after the invocation. -/
theorem dispatch_of_abort {abort : Abort}
    (ends : dispatcher.settled (some failure, after) = .error abort) :
    ((dispatcher.dispatch false).run ⟨context, observer⟩).1 = .error abort ∧
      ((dispatcher.dispatch false).run ⟨context, observer⟩).2.observer.journal.events =
        observer.journal.events ++ [.callback (.stepStarted (startedContext context)),
          .invocation (actionContext context found) after] := by
  have follows := dispatcher.dispatch_follows false ⟨context, observer⟩
  have course : dispatcher.courseOf false context =
      ⟨startedContext context, some (actionContext context found, after),
        dispatcher.abandoned (some failure, after), .error abort⟩ := by
    simp [courseOf, sought, invokedCourse, called, ends]
  rw [course] at follows
  have heard : observer.listener.toldAll? [.stepStarted (startedContext context)] =
      some observer.listener := by simp
  obtain ⟨final, grown, runs⟩ := follows.run_eq heard
  exact ⟨congrArg Prod.fst runs, (congrArg (·.2.observer.journal.events) runs).trans grown⟩

/-- A dispatch whose action raises something that is written down ends with a result, while the
listener has a place for it. -/
theorem dispatch_of_settled (listening : observer.listener.HasOpen 1) {written : Recorder}
    (settles : dispatcher.settled (some failure, after) = .ok written) :
    ∃ ended,
      ((dispatcher.dispatch false).run ⟨context, observer⟩).1 = .ok written.finish.result ∧
      ((dispatcher.dispatch false).run ⟨context, observer⟩).2.observer.journal.events =
        observer.journal.events ++ [.callback (.stepStarted (startedContext context)),
          .invocation (actionContext context found) after] ++
            [.callback (.stepFinished ended written.finish.result)] := by
  have follows := dispatcher.dispatch_follows false ⟨context, observer⟩
  let ended : StepContext := { after with recorder := some written.finish }
  have course : dispatcher.courseOf false context =
      ⟨startedContext context, some (actionContext context found, after), ended,
        .ok written.finish.result⟩ := by
    simp [courseOf, sought, invokedCourse, called, settles, ended]
  rw [course] at follows
  obtain ⟨told, has, _⟩ := listening.stepFinished Nat.one_pos ended written.finish.result
  have heard : observer.listener.toldAll? [.stepStarted (startedContext context),
      .stepFinished ended written.finish.result] = some told := by simp [has]
  obtain ⟨final, grown, runs⟩ := follows.run_eq heard
  refine ⟨ended, congrArg Prod.fst runs, ?_⟩
  rw [List.append_assoc]
  exact (congrArg (·.2.observer.journal.events) runs).trans grown

end Raised

/-- A dispatch whose action raises no exit, while the listener has a place for its end. -/
theorem dispatch_of_raised {context : StepContext} {observer : Observer}
    {definition : StepDefinition} {found : PatternMatch} {failure : Failure}
    {after : StepContext} (listening : observer.listener.HasOpen 1)
    (sought : dispatcher.registry.find context.verb context.text = some (definition, found))
    (called : dispatcher.callIn definition (actionContext context found) =
      (some failure, after))
    (ordinary : failure.role ≠ .exit) :
    let ran := (dispatcher.dispatch false).run ⟨context, observer⟩
    let taken : Journal := observer.journal.events ++
      [.callback (.stepStarted (startedContext context)),
        .invocation (actionContext context found) after]
    let recorder := after.recorder.getD .empty
    match dispatcher.untold? failure with
    | some raised =>
      ran.2.observer.journal.events = taken ∧
        (ran.1 = .error (.exit raised) ∨
          recorder.done = true ∧ ran.1 = .error .closedRecorder)
    | none =>
      if recorder.done then
        ran.1 = .error .closedRecorder ∧ ran.2.observer.journal.events = taken
      else
        ∃ ended result, ran.1 = .ok result ∧
          result.status = recorder.recoveredStatus failure ∧
          ran.2.observer.journal.events =
            taken ++ [.callback (.stepFinished ended result)] := by
  intro ran taken recorder
  cases untold : dispatcher.untold? failure with
  | some raised =>
      rcases settle_of_untold untold after.text with ends | ⟨closed, ends⟩
      · have ⟨aborted, events⟩ : ran.1 = .error (.exit raised) ∧
            ran.2.observer.journal.events = taken :=
          dispatcher.dispatch_of_abort sought called ends
        exact ⟨events, .inl aborted⟩
      · have ⟨aborted, events⟩ : ran.1 = .error .closedRecorder ∧
            ran.2.observer.journal.events = taken :=
          dispatcher.dispatch_of_abort sought called ends
        exact ⟨events, .inr ⟨closed, aborted⟩⟩
  | none =>
      cases closed : recorder.done with
      | true =>
          rw [if_pos rfl]
          exact dispatcher.dispatch_of_abort sought called
            (settle_of_done ordinary untold closed after.text)
      | false =>
          obtain ⟨written, settles, status⟩ :=
            settle_of_open ordinary untold closed after.text
          obtain ⟨ended, returns, events⟩ :=
            dispatcher.dispatch_of_settled sought called listening settles
          rw [if_neg Bool.false_ne_true]
          exact ⟨ended, written.finish.result, returns, status, events⟩

/-- A run of a feature returns exactly if none of its moves is held up and all actions it invokes
recover, and then it gives all its signals. -/
theorem exists_runFeature_events (selection : Selection) (feature : Feature)
    (state : RunState) :
    ∃ events : Journal,
      let recovered := (∀ move ∈ featureMoves selection feature,
          dispatcher.obstacle? move = none) ∧
        ∀ invocation ∈ events.invocations, dispatcher.Recovered invocation
      ((dispatcher.runFeature selection feature).run state).2.observer.journal.events =
        state.observer.journal.events ++ events ∧
      ((∃ results, ((dispatcher.runFeature selection feature).run state).1 = .ok results) ↔
        recovered) ∧
      (recovered →
        events.callbacks.map Callback.signal = feature.signals (selection.apply feature)) := by
  obtain ⟨observer, grown, runs⟩ := dispatcher.exists_run_runFeature selection feature state
  have returns_iff :
      (∃ results, (dispatcher.featureWalk selection feature state.standing).outcome =
        .ok results) ↔
        (∀ move ∈ featureMoves selection feature, dispatcher.obstacle? move = none) ∧
          ∀ invocation ∈
            (dispatcher.featureWalk selection feature state.standing).events.invocations,
            dispatcher.Recovered invocation :=
    dispatcher.walk_returns_iff (featureMoves selection feature) _
  rw [runs]
  refine ⟨_, grown, ?_⟩
  rw [outcome_featurePassage, invocations_featurePassage]
  refine ⟨returns_iff, ?_⟩
  intro recovered
  obtain ⟨results, returns⟩ := returns_iff.mpr recovered
  exact dispatcher.signals_featurePassage_of_ok returns

/-- Recovering from what actions raise.  If an action raises anything but an exit, and what it
raised can be told, its step ends with a failing or pending result exactly if the action has not
written its plan before; otherwise the run ends after the invocation.  So does it if telling what
was raised raises another failure.  A run of a feature returns, and gives all its signals, exactly
if no row and no step is held up, and no action that it invokes raises an exit, raises anything that
cannot be told, or raises anything after writing its plan. -/
theorem recovers_iff_open :
    (∀ (context : StepContext) (observer : Observer) (definition : StepDefinition)
        (found : PatternMatch) (failure : Failure) (after : StepContext),
      observer.listener.HasOpen 1 →
      dispatcher.registry.find context.verb context.text = some (definition, found) →
      dispatcher.callIn definition (actionContext context found) = (some failure, after) →
      failure.role ≠ .exit →
        let ran := (dispatcher.dispatch false).run ⟨context, observer⟩
        let taken : Journal := observer.journal.events ++
          [.callback (.stepStarted (startedContext context)),
            .invocation (actionContext context found) after]
        let recorder := after.recorder.getD .empty
        match dispatcher.untold? failure with
        | some raised =>
          ran.2.observer.journal.events = taken ∧
            (ran.1 = .error (.exit raised) ∨
              recorder.done = true ∧ ran.1 = .error .closedRecorder)
        | none =>
          if recorder.done then
            ran.1 = .error .closedRecorder ∧ ran.2.observer.journal.events = taken
          else
            ∃ ended result, ran.1 = .ok result ∧
              result.status = recorder.recoveredStatus failure ∧
              ran.2.observer.journal.events =
                taken ++ [.callback (.stepFinished ended result)]) ∧
    ∀ (selection : Selection) (feature : Feature) (state : RunState),
      ∃ events : Journal,
        let recovered := (∀ move ∈ featureMoves selection feature,
            dispatcher.obstacle? move = none) ∧
          ∀ invocation ∈ events.invocations, dispatcher.Recovered invocation
        ((dispatcher.runFeature selection feature).run state).2.observer.journal.events =
          state.observer.journal.events ++ events ∧
        ((∃ results, ((dispatcher.runFeature selection feature).run state).1 = .ok results) ↔
          recovered) ∧
        (recovered →
          events.callbacks.map Callback.signal = feature.signals (selection.apply feature)) := by
  constructor
  · intro context observer definition found failure after listening sought called ordinary
    exact dispatcher.dispatch_of_raised listening sought called ordinary
  · exact dispatcher.exists_runFeature_events

/-- A check that fails and then a step marked as pending, both before the plan. -/
theorem recovers_iff_open_failing :
    let failing : Action :=
      ⟨.either, .perform (.ok false []) fun _ => .fail (.pending none)⟩
    let definition : StepDefinition :=
      ⟨[], ⟨[], ⟨false, false, false⟩, .sequence [], 0⟩, failing⟩
    let dispatcher : Dispatcher := ⟨⟨[([], [definition])]⟩, false⟩
    let context : StepContext := .build ⟨[], [], .null, .null⟩ [] [] []
    ∃ result, ((dispatcher.dispatch false).run ⟨context, .start .silent⟩).1 = .ok result ∧
      result.status = .failing := by
  intro failing definition dispatcher context
  obtain ⟨ended, result, returns, status, -⟩ := dispatcher.recovers_iff_open.1 context
    (.start .silent) definition ⟨0, 0, []⟩ (.pending none) _ trivial rfl rfl (by decide)
  exact ⟨result, returns, status⟩

/-- An action that writes its plan and then raises an error. -/
def raisingAfterPlan : Action :=
  ⟨.either, .perform .finish fun _ => .fail (.error "ValueError".toList none)⟩

/-- A failure that comes after the plan ends the run. -/
theorem not_recovered_of_done :
    ¬ ∀ (dispatcher : Dispatcher) (context : StepContext) (observer : Observer)
        (definition : StepDefinition) (found : PatternMatch) (failure : Failure)
        (after : StepContext),
      observer.listener.HasOpen 1 →
      dispatcher.registry.find context.verb context.text = some (definition, found) →
      dispatcher.callIn definition (actionContext context found) = (some failure, after) →
      failure.role ≠ .exit →
        ∃ result, ((dispatcher.dispatch false).run ⟨context, observer⟩).1 = .ok result := by
  intro claimed
  let definition : StepDefinition :=
    ⟨[], ⟨[], ⟨false, false, false⟩, .sequence [], 0⟩, raisingAfterPlan⟩
  let dispatcher : Dispatcher := ⟨⟨[([], [definition])]⟩, false⟩
  let context : StepContext := .build ⟨[], [], .null, .null⟩ [] [] []
  obtain ⟨result, returns⟩ := claimed dispatcher context (.start .silent) definition ⟨0, 0, []⟩
    (.error "ValueError".toList none) _ trivial rfl rfl (by decide)
  have ends : ((dispatcher.dispatch false).run ⟨context, .start .silent⟩).1.isOk = false := by
    decide +kernel
  rw [returns] at ends
  cases ends

end Dispatcher

end FeatureRunner
