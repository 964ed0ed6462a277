import FeatureRunner.Run.Execution

/-!
# Events of a run

The events of a journal are its callbacks and its invocations of actions.  Notices and notes say
more about a run, but nothing that happens later depends on them.

This file says how computations that may end a run compose, which part of the journal the events
are, and what telling an observer does: the callback enters the journal in any case, and the
listener either takes it in or has no place for it.
-/

namespace FeatureRunner

section Computations

variable {ε σ α β : Type}

theorem run_bind (first : ExceptT ε (StateM σ) α)
    (next : α → ExceptT ε (StateM σ) β) (state : σ) :
    (first >>= next).run state =
      match first.run state with
      | (.ok value, after) => (next value).run after
      | (.error abort, after) => (.error abort, after) := by
  rw [ExceptT.run_bind]
  change StateT.run (first.run >>= _) state = _
  rw [StateT.run_bind]
  rcases outcome : first.run state with ⟨_ | _, _⟩
  · simp only [StateT.run, outcome]
    rfl
  · simp only [StateT.run, outcome]
    rfl

theorem run_bind_of_ok {first : ExceptT ε (StateM σ) α}
    {next : α → ExceptT ε (StateM σ) β} {state after : σ} {value : α}
    (returned : first.run state = (.ok value, after)) :
    (first >>= next).run state = (next value).run after := by
  rw [run_bind, returned]

theorem run_bind_of_error {first : ExceptT ε (StateM σ) α}
    {next : α → ExceptT ε (StateM σ) β} {state after : σ} {abort : ε}
    (ended : first.run state = (.error abort, after)) :
    (first >>= next).run state = (.error abort, after) := by
  rw [run_bind, ended]

theorem run_bind_fst_of_error {first : ExceptT ε (StateM σ) α}
    {next : α → ExceptT ε (StateM σ) β} {state : σ} {abort : ε}
    (ended : (first.run state).1 = .error abort) :
    ((first >>= next).run state).1 = .error abort := by
  rw [run_bind]
  rcases ran : first.run state with ⟨outcome, after⟩
  rw [ran] at ended
  simp only at ended
  rw [ended]

@[simp]
theorem run_modify (change : σ → σ) (state : σ) :
    (modify change : ExceptT ε (StateM σ) PUnit).run state =
      (.ok ⟨⟩, change state) :=
  rfl

@[simp]
theorem run_get (state : σ) :
    (get : ExceptT ε (StateM σ) σ).run state = (.ok state, state) :=
  rfl

@[simp]
theorem run_throw (abort : ε) (state : σ) :
    (throw abort : ExceptT ε (StateM σ) α).run state = (.error abort, state) :=
  rfl

end Computations

/-- An outcome whose results have certain statuses is that of a run that returned. -/
theorem exists_results_of_statuses {outcome : Except Abort (List Result)}
    {statuses : List Status}
    (known : outcome.toOption.map (·.map Result.status) = some statuses) :
    ∃ results, outcome = .ok results ∧ results.map Result.status = statuses := by
  cases outcome with
  | error abort => cases known
  | ok results => exact ⟨results, rfl, Option.some.inj known⟩

/-- Whether an entry of a journal is a callback or an invocation. -/
def JournalEntry.isEvent : JournalEntry → Bool
  | .callback _ => true
  | .invocation _ _ => true
  | .notice _ => false
  | .note _ _ => false

namespace Journal

/-- The callbacks and invocations of a journal, in order. -/
def events (journal : Journal) : Journal := journal.filter JournalEntry.isEvent

@[simp]
theorem events_append (first second : Journal) :
    events (first ++ second) = first.events ++ second.events :=
  List.filter_append ..

@[simp]
theorem callbacks_cons (callback : Callback) (rest : Journal) :
    callbacks (.callback callback :: rest) = callback :: rest.callbacks :=
  rfl

@[simp]
theorem callbacks_append (first second : Journal) :
    callbacks (first ++ second) = first.callbacks ++ second.callbacks :=
  List.filterMap_append ..

@[simp]
theorem invocations_append (first second : Journal) :
    invocations (first ++ second) = first.invocations ++ second.invocations :=
  List.filterMap_append ..

@[simp]
theorem callbacks_events (journal : Journal) : journal.events.callbacks = journal.callbacks := by
  induction journal with
  | nil => rfl
  | cons entry rest ih =>
      cases entry <;> simpa [events, callbacks, List.filter_cons, JournalEntry.isEvent] using ih

@[simp]
theorem invocations_events (journal : Journal) :
    journal.events.invocations = journal.invocations := by
  induction journal with
  | nil => rfl
  | cons entry rest ih =>
      cases entry <;> simpa [events, invocations, List.filter_cons, JournalEntry.isEvent] using ih

/-- Notices are no events. -/
theorem events_map_notice (notices : List Notice) :
    events (notices.map .notice) = [] := by
  rw [events, List.filter_map]
  exact List.map_eq_nil_iff.mpr (List.filter_eq_nil_iff.mpr fun notice _ => Bool.false_ne_true)

/-- Whoever agrees on the new events agrees on the new invocations. -/
theorem invocations_of_events {before after new : Journal}
    (grown : after.events = before.events ++ new) :
    after.invocations = before.invocations ++ new.invocations := by
  rw [← invocations_events after, grown, invocations_append, invocations_events]

end Journal

namespace Listener

/-- The listener after a callback, if it has a place for it. -/
def told? : Listener → Callback → Option Listener
  | silent, _ => some silent
  | reporting report, callback => (report.told? callback).map reporting

/-- The listener after callbacks in order, if it has a place for all of them. -/
def toldAll? (listener : Listener) (callbacks : List Callback) : Option Listener :=
  callbacks.foldlM told? listener

@[simp]
theorem toldAll?_nil (listener : Listener) : listener.toldAll? [] = some listener :=
  rfl

@[simp]
theorem toldAll?_cons (listener : Listener) (callback : Callback) (rest : List Callback) :
    listener.toldAll? (callback :: rest) = (listener.told? callback).bind (·.toldAll? rest) :=
  List.foldlM_cons

theorem toldAll?_singleton (listener : Listener) (callback : Callback) :
    listener.toldAll? [callback] = listener.told? callback := by
  cases told : listener.told? callback <;> simp [told]

theorem toldAll?_append (listener : Listener) (first second : List Callback) :
    listener.toldAll? (first ++ second) =
      (listener.toldAll? first).bind (·.toldAll? second) :=
  List.foldlM_append

/-- Every listener has a place for the beginning of a step, and stays as it was. -/
@[simp]
theorem told?_stepStarted (listener : Listener) (context : StepContext) :
    listener.told? (.stepStarted context) = some listener := by
  cases listener <;> rfl

end Listener

namespace Observer

/-- Telling an observer enters the callback and asks the listener. -/
theorem tell_eq (observer : Observer) (callback : Callback) :
    observer.tell callback =
      match observer.listener.told? callback with
      | some listener => (.ok (), ⟨observer.journal ++ [.callback callback], listener⟩)
      | none => (.error .nothingOpen, observer.enter (.callback callback)) := by
  rcases observer with ⟨journal, _ | report⟩
  · rfl
  · cases told : report.told? callback <;> simp [tell, enter, Listener.told?, told]

/-- Two observers agree if their journals have the same events and their listeners are the
same. -/
def Agrees (first second : Observer) : Prop :=
  first.journal.events = second.journal.events ∧ first.listener = second.listener

@[refl]
theorem Agrees.refl (observer : Observer) : observer.Agrees observer :=
  ⟨rfl, rfl⟩

theorem Agrees.trans {first second third : Observer} (front : first.Agrees second)
    (back : second.Agrees third) : first.Agrees third :=
  ⟨front.1.trans back.1, front.2.trans back.2⟩

theorem Agrees.append {first second : Observer} (agrees : first.Agrees second)
    (entries : Journal) :
    Agrees ⟨first.journal ++ entries, first.listener⟩
      ⟨second.journal ++ entries, second.listener⟩ := by
  constructor
  · rw [Journal.events_append, Journal.events_append, agrees.1]
  · exact agrees.2

theorem give_agrees (observer : Observer) (level : NoticeLevel) (origin : String)
    (message : Text) : (observer.give level origin message).Agrees observer := by
  constructor
  · simp [give, enter, Journal.events, JournalEntry.isEvent]
  · rfl

theorem foldl_note_agrees (observer : Observer) (notes : List (Text × Value)) :
    (notes.foldl (fun observer entry => observer.enter (.note entry.1 entry.2))
        observer).Agrees observer := by
  induction notes generalizing observer with
  | nil => rfl
  | cons note rest ih =>
      have noted : (observer.enter (.note note.1 note.2)).Agrees observer := by
        constructor
        · simp [enter, Journal.events, JournalEntry.isEvent]
        · rfl
      exact (ih _).trans noted

end Observer

/-- Registering step definitions gives notices only. -/
theorem Dispatcher.addSteps_agrees (dispatcher : Dispatcher) (observer : Observer)
    (entries : List StepEntry) : (dispatcher.addSteps observer entries).2.1.Agrees observer := by
  unfold Dispatcher.addSteps
  rcases dispatcher.registry.addAll entries with ⟨registry, added, fault⟩
  dsimp only
  induction added generalizing observer with
  | nil => rfl
  | cons definition rest ih => exact (ih _).trans (observer.give_agrees _ _ _)

end FeatureRunner
