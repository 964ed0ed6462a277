import FeatureRunner.Proofs.Run.StepCourse

/-!
# Dispatching follows the course of the step

A dispatch changes its context, tells the observer and enters notices and notes, and ends in one
of several places.  This file proves that all it does is to follow the course of its step,
whoever observes the run.
-/

namespace FeatureRunner

namespace DispatchM

/-- A dispatch follows a course if it enters the events of the course into the journal and ends
as the course does.  When the listener has no place for the end of the step, the run ends
there. -/
def Follows (dispatch : DispatchM Result) (state : DispatchState) (course : StepCourse) :
    Prop :=
  ∃ observer : Observer,
    observer.journal.events = state.observer.journal.events ++ course.events ∧
      match state.observer.listener.toldAll? course.events.callbacks with
      | some listener =>
        observer.listener = listener ∧
          dispatch.run state = (course.outcome, ⟨course.ended, observer⟩)
      | none => dispatch.run state = (.error .nothingOpen, ⟨course.ended, observer⟩)

/-- Following a course whose callbacks all have a place. -/
theorem Follows.run_eq {dispatch : DispatchM Result} {state : DispatchState}
    {course : StepCourse} {listener : Listener} (follows : dispatch.Follows state course)
    (told : state.observer.listener.toldAll? course.events.callbacks = some listener) :
    ∃ observer : Observer,
      observer.journal.events = state.observer.journal.events ++ course.events ∧
        dispatch.run state = (course.outcome, ⟨course.ended, observer⟩) := by
  obtain ⟨observer, grown, ending⟩ := follows
  rw [told] at ending
  exact ⟨observer, grown, ending.2⟩

/-- A dispatch that returns has the result of the course that it follows. -/
theorem Follows.outcome_of_ok {dispatch : DispatchM Result} {state : DispatchState}
    {course : StepCourse} {result : Result} (follows : dispatch.Follows state course)
    (returns : (dispatch.run state).1 = .ok result) : course.outcome = .ok result := by
  obtain ⟨observer, -, ending⟩ := follows
  split at ending
  · rw [ending.2] at returns
    exact returns
  · rw [ending] at returns
    cases returns

@[simp]
theorem run_changeContext (change : StepContext → StepContext) (state : DispatchState) :
    (changeContext change).run state = (.ok (), { state with context := change state.context }) :=
  rfl

theorem run_tell (callback : StepContext → Callback) (state : DispatchState) :
    (tell callback).run state =
      ((state.observer.tell (callback state.context)).1,
        { state with observer := (state.observer.tell (callback state.context)).2 }) :=
  rfl

@[simp]
theorem run_tell_stepStarted (state : DispatchState) :
    (tell .stepStarted).run state =
      (.ok (), { state with
        observer := state.observer.enter (.callback (.stepStarted state.context)) }) := by
  rw [run_tell, Observer.tell_eq]
  simp [Observer.enter]

@[simp]
theorem run_give (level : NoticeLevel) (message : Text) (state : DispatchState) :
    (give level message).run state =
      (.ok (), { state with
        observer := state.observer.give level "cukerun.core.dispatcher" message }) :=
  rfl

/-- What holds from every observer that agrees holds after a notice. -/
theorem exists_run_give {α : Type} {level : NoticeLevel} {message : Text}
    {next : Unit → DispatchM α} {state : DispatchState}
    {target : Observer → Except Abort α × DispatchState}
    (rest : ∀ observer : Observer, observer.Agrees state.observer →
      (next ()).run ⟨state.context, observer⟩ = target observer) :
    ∃ observer : Observer, observer.Agrees state.observer ∧
      (give level message >>= next).run state = target observer := by
  have agrees := state.observer.give_agrees level "cukerun.core.dispatcher" message
  exact ⟨_, agrees, (run_bind_of_ok (run_give level message state)).trans (rest _ agrees)⟩

theorem run_record (change : Recorder → Option Recorder) (state : DispatchState) :
    (record change).run state =
      match change (state.context.recorder.getD .empty) with
      | some changed =>
        (.ok (), { state with context := { state.context with recorder := some changed } })
      | none => (.error .closedRecorder, state) := by
  unfold record
  rw [run_bind_of_ok (run_get state)]
  cases accepted : change (state.context.recorder.getD .empty) <;> simp [accepted]

/-- A change of the recorder that always succeeds. -/
@[simp]
theorem run_record_some (change : Recorder → Recorder) (state : DispatchState) :
    (record fun recorder => some (change recorder)).run state =
      (.ok (), { state with context := { state.context with
        recorder := some (change (state.context.recorder.getD .empty)) } }) :=
  run_record _ state

theorem run_conclude (result : Result) (state : DispatchState) :
    (conclude result).run state =
      match state.observer.listener.told? (.stepFinished state.context result) with
      | some listener =>
        (.ok result, { state with observer :=
          ⟨state.observer.journal ++ [.callback (.stepFinished state.context result)],
            listener⟩ })
      | none =>
        (.error .nothingOpen, { state with
          observer := state.observer.enter (.callback (.stepFinished state.context result)) }) := by
  unfold conclude
  rw [run_bind, run_tell, Observer.tell_eq]
  cases state.observer.listener.told? (.stepFinished state.context result) <;> rfl

/-- A dispatch that tells the start of its step, invokes what its course invokes and then
concludes follows its course. -/
theorem follows_of_conclude {dispatch : DispatchM Result} {state : DispatchState}
    {course : StepCourse} {result : Result} {observer : Observer}
    (returns : course.outcome = .ok result)
    (heard : observer.Agrees ⟨state.observer.journal ++
      .callback (.stepStarted course.started) ::
        course.invocation.toList.map (fun contexts => .invocation contexts.1 contexts.2),
      state.observer.listener⟩)
    (runs : dispatch.run state = (conclude result).run ⟨course.ended, observer⟩) :
    dispatch.Follows state course := by
  obtain ⟨sameEvents, sameListener⟩ := heard
  have grown : Journal.events (observer.journal ++
      [.callback (.stepFinished course.ended result)]) =
        state.observer.journal.events ++ course.events := by
    rw [Journal.events_append, sameEvents, Journal.events_append, List.append_assoc,
      StepCourse.events, StepCourse.closing, returns]
    cases course.invocation <;> rfl
  rw [run_conclude] at runs
  simp only at sameListener runs
  unfold Follows
  rw [StepCourse.callbacks_events, returns, Listener.toldAll?_cons,
    Listener.told?_stepStarted, Option.bind_some, Listener.toldAll?_cons, ← sameListener]
  cases told : observer.listener.told? (.stepFinished course.ended result) with
  | none =>
      rw [told] at runs
      exact ⟨_, grown, runs⟩
  | some listener =>
      rw [told] at runs
      exact ⟨_, grown, rfl, runs⟩

/-- A dispatch that tells the start of its step, invokes what its course invokes and then ends
the run follows its course. -/
theorem follows_of_error {dispatch : DispatchM Result} {state : DispatchState}
    {course : StepCourse} {abort : Abort} {observer : Observer}
    (ends : course.outcome = .error abort)
    (heard : observer.Agrees ⟨state.observer.journal ++
      .callback (.stepStarted course.started) ::
        course.invocation.toList.map (fun contexts => .invocation contexts.1 contexts.2),
      state.observer.listener⟩)
    (runs : dispatch.run state = (.error abort, ⟨course.ended, observer⟩)) :
    dispatch.Follows state course := by
  obtain ⟨sameEvents, sameListener⟩ := heard
  have grown : observer.journal.events = state.observer.journal.events ++ course.events := by
    rw [sameEvents, Journal.events_append, StepCourse.events, StepCourse.closing, ends]
    cases course.invocation <;> rfl
  unfold Follows
  rw [StepCourse.callbacks_events, ends, Listener.toldAll?_cons, Listener.told?_stepStarted,
    Option.bind_some, Listener.toldAll?_nil]
  exact ⟨observer, grown, sameListener, runs⟩

/-- A dispatch that begins with notices at most follows the course of the rest. -/
theorem Follows.after {dispatch rest : DispatchM Result} {state : DispatchState}
    {course : StepCourse} {observer : Observer} (quiet : observer.Agrees state.observer)
    (runs : dispatch.run state = rest.run ⟨state.context, observer⟩)
    (follows : rest.Follows ⟨state.context, observer⟩ course) :
    dispatch.Follows state course := by
  obtain ⟨final, grown, ending⟩ := follows
  rw [quiet.1] at grown
  rw [quiet.2, ← runs] at ending
  exact ⟨final, grown, ending⟩

end DispatchM

namespace Dispatcher

open DispatchM

theorem run_skipStep (status : Status) (reason : Text) (state : DispatchState) :
    (skipStep status reason).run state =
      (conclude (.skipped status reason)).run { state with
        observer := state.observer.enter (.callback (.stepStarted state.context)) } := by
  unfold skipStep skipWith
  rw [run_bind_of_ok (run_tell_stepStarted state)]

theorem skipStep_follows (status : Status) (reason : Text) (state : DispatchState) :
    (skipStep status reason).Follows state
      (.skipped state.context (.skipped status reason)) :=
  follows_of_conclude rfl (.refl _) (run_skipStep status reason state)

theorem failStep_follows (reason : Text) (state : DispatchState) :
    (failStep reason).Follows state (.unprepared state.context reason) := by
  apply follows_of_conclude rfl (.refl _)
  unfold failStep
  rw [run_bind_of_ok (run_changeContext _ state), run_bind_of_ok (run_tell_stepStarted _),
    run_bind_of_ok (run_get _), run_bind_of_ok (run_record _ _),
    run_bind_of_ok (run_record_some _ _), run_bind_of_ok (run_record_some _ _),
    run_bind_of_ok (run_get _)]
  rfl

theorem run_invoke (dispatcher : Dispatcher) (definition : StepDefinition)
    (state : DispatchState) :
    ∃ observer : Observer,
      observer.Agrees ⟨state.observer.journal ++
        [.invocation state.context (dispatcher.callIn definition state.context).2],
          state.observer.listener⟩ ∧
        (dispatcher.invoke definition.action).run state =
          (.ok (dispatcher.callIn definition state.context).1,
            ⟨(dispatcher.callIn definition state.context).2, observer⟩) := by
  let called := definition.action.call dispatcher.extraFields ⟨state.context, []⟩
  have noted := state.observer.foldl_note_agrees called.2.notes
  exact ⟨_, noted.append [.invocation state.context called.2.context], rfl⟩

/-- Writing down what an action raised settles the recorder, or ends the run. -/
theorem run_recordFailure (dispatcher : Dispatcher) (failure : Failure) (state : DispatchState) :
    ∃ observer : Observer, observer.Agrees state.observer ∧
      (dispatcher.recordFailure failure).run state =
        match dispatcher.settled (some failure, state.context) with
        | .ok recorder => (.ok (), ⟨{ state.context with recorder := some recorder }, observer⟩)
        | .error abort =>
          (.error abort, ⟨dispatcher.abandoned (some failure, state.context), observer⟩) := by
  simp only [recordFailure, settled, settle, abandoned, abandon]
  cases failure.role with
  | pending =>
      refine ⟨state.observer, .refl _, ?_⟩
      simp only
      rw [run_bind_of_ok (run_get state)]
      cases failure.wording with
      | error raised => rfl
      | ok reason =>
          simp only [run_record]
          cases (state.context.recorder.getD .empty).todo?
            ("Step is pending: ".toList ++ state.context.text) reason <;> rfl
  | error =>
      simp only
      unfold noticeError
      cases failure.detail.bind dispatcher.noticeFlaw? with
      | some flaw => exact ⟨state.observer, .refl _, rfl⟩
      | none =>
          simp only [bind_assoc]
          rw [run_bind_of_ok (run_get state)]
          refine exists_run_give fun observer agrees => ?_
          rw [run_bind, run_record]
          simp only
          cases accepted : (state.context.recorder.getD .empty).ok? false
            "Step ran without raising".toList with
          | none => simp
          | some changed =>
              simp only
              cases failure.trace with
              | error raised => rfl
              | ok trace => exact run_record_some _ _
  | exit => exact ⟨state.observer, .refl _, rfl⟩

theorem run_finish (context : StepContext) (observer : Observer) :
    (do
      record fun recorder => some recorder.finish
      conclude ((← get).context.recorder.getD .empty).result).run ⟨context, observer⟩ =
      (conclude (context.recorder.getD .empty).finish.result).run
        ⟨{ context with recorder := some (context.recorder.getD .empty).finish }, observer⟩ := by
  rw [run_bind_of_ok (run_record_some _ _), run_bind_of_ok (run_get _)]
  rfl

theorem run_runDefinition (dispatcher : Dispatcher) (definition : StepDefinition)
    (found : PatternMatch) (state : DispatchState) {raised : Option Failure}
    {after : StepContext}
    (called : dispatcher.callIn definition (actionContext state.context found) =
      (raised, after)) :
    ∃ observer : Observer,
      observer.Agrees ⟨state.observer.journal ++
        [.callback (.stepStarted (startedContext state.context)),
          .invocation (actionContext state.context found) after], state.observer.listener⟩ ∧
      (dispatcher.runDefinition definition found).run state =
        match dispatcher.settled (raised, after) with
        | .ok recorder =>
          (conclude recorder.finish.result).run
            ⟨{ after with recorder := some recorder.finish }, observer⟩
        | .error abort =>
          (.error abort, ⟨dispatcher.abandoned (raised, after), observer⟩) := by
  let before := actionContext state.context found
  let begun := state.observer.enter (.callback (.stepStarted (startedContext state.context)))
  let message : Text := "Dispatching ".toList ++ state.context.verb ++ [' '] ++
    state.context.text ++ " to /".toList ++ definition.pattern.source ++ ['/']
  let noticed := begun.give .debug "cukerun.core.dispatcher" message
  have started : (changeContext startedContext).run state =
      (.ok (), ⟨startedContext state.context, state.observer⟩) := rfl
  have told : (tell .stepStarted).run ⟨startedContext state.context, state.observer⟩ =
      (.ok (), ⟨startedContext state.context, begun⟩) := run_tell_stepStarted _
  have matched : (changeContext fun context => { context with matched := found.groups }).run
        ⟨startedContext state.context, begun⟩ = (.ok (), ⟨before, begun⟩) := rfl
  have given : (give .debug message).run ⟨before, begun⟩ = (.ok (), ⟨before, noticed⟩) := rfl
  obtain ⟨invoking, agrees, invoked⟩ := run_invoke dispatcher definition ⟨before, noticed⟩
  simp only [before, called] at agrees invoked
  have heard : invoking.Agrees ⟨state.observer.journal ++
      [.callback (.stepStarted (startedContext state.context)), .invocation before after],
        state.observer.listener⟩ := by
    have quiet := begun.give_agrees .debug "cukerun.core.dispatcher" message
    refine agrees.trans ((quiet.append _).trans ?_)
    rw [List.append_cons state.observer.journal]
    exact .refl _
  unfold runDefinition
  cases raised with
  | none =>
      refine ⟨invoking, heard, ?_⟩
      exact (run_bind_of_ok started).trans ((run_bind_of_ok told).trans
        ((run_bind_of_ok matched).trans ((run_bind_of_ok (run_get _)).trans
          ((run_bind_of_ok given).trans ((run_bind_of_ok invoked).trans
            (run_finish after invoking))))))
  | some failure =>
      obtain ⟨observer, quiet, recorded⟩ := 
        run_recordFailure dispatcher failure ⟨after, invoking⟩
      refine ⟨observer, quiet.trans heard, ?_⟩
      refine (run_bind_of_ok started).trans ((run_bind_of_ok told).trans
        ((run_bind_of_ok matched).trans ((run_bind_of_ok (run_get _)).trans
          ((run_bind_of_ok given).trans ((run_bind_of_ok invoked).trans ?_)))))
      cases outcome : dispatcher.settled (some failure, after) with
      | error abort =>
          rw [outcome] at recorded
          exact run_bind_of_error recorded
      | ok recorder =>
          rw [outcome] at recorded
          exact (run_bind_of_ok recorded).trans (run_finish _ observer)

theorem runDefinition_follows (dispatcher : Dispatcher) (definition : StepDefinition)
    (found : PatternMatch) (state : DispatchState) :
    (dispatcher.runDefinition definition found).Follows state
      (dispatcher.invokedCourse state.context definition found) := by
  rcases called : dispatcher.callIn definition (actionContext state.context found) with
    ⟨raised, after⟩
  obtain ⟨observer, agrees, runs⟩ :=
    run_runDefinition dispatcher definition found state called
  simp only [invokedCourse, called]
  cases outcome : dispatcher.settled (raised, after) with
  | ok recorder =>
      rw [outcome] at runs
      exact follows_of_conclude rfl agrees runs
  | error abort =>
      rw [outcome] at runs
      exact follows_of_error rfl agrees runs

/-- Dispatching a step follows its course. -/
theorem dispatch_follows (dispatcher : Dispatcher) (shortCircuit : Bool)
    (state : DispatchState) :
    (dispatcher.dispatch shortCircuit).Follows state
      (dispatcher.courseOf shortCircuit state.context) := by
  unfold dispatch courseOf
  split
  · exact skipStep_follows .pending shortCircuitReason state
  · cases sought : dispatcher.registry.find state.context.verb state.context.text with
    | none =>
        have quiet := state.observer.give_agrees .warning "cukerun.core.dispatcher"
          (undefinedReason state.context)
        refine .after quiet ?_ (skipStep_follows .undefined (undefinedReason state.context) _)
        rw [run_bind_of_ok (run_get state)]
        simp only [sought]
        exact run_bind_of_ok (run_give _ _ _)
    | some found =>
        refine .after (.refl _) ?_ (runDefinition_follows dispatcher found.1 found.2 state)
        rw [run_bind_of_ok (run_get state)]
        simp only [sought]

end Dispatcher

end FeatureRunner
