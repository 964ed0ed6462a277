import FeatureRunner.Proofs.Registry.History
import Mathlib.Data.List.TakeWhile

/-!
# Additions that fail

An entry whose action cannot be called is refused, and the registry stays as it was.  Several
entries are added one by one up to the first that is refused: those ahead of it stay, and what comes
after it is not looked at.

So a registry that was asked for many additions, some of which failed, holds exactly the entries
ahead of the faults, as if nothing else had been asked for.
-/

namespace FeatureRunner

namespace StepEntry

def isCallable (entry : StepEntry) : Bool :=
  match entry.handler with
  | .action _ => true
  | .other _ => false

/-- The fault of an entry whose action cannot be called. -/
def refusal (entry : StepEntry) : NotCallable := ⟨entry.verb, entry.pattern⟩

/-- The longest list of entries at the beginning that can all be called. -/
def callablePrefix (entries : List StepEntry) : List StepEntry := entries.takeWhile isCallable

/-- The fault of the first entry that cannot be called. -/
def firstRefusal? (entries : List StepEntry) : Option NotCallable :=
  (entries.find? fun entry => !entry.isCallable).map refusal

theorem callablePrefix_eq_self {entries : List StepEntry}
    (callable : ∀ entry ∈ entries, entry.isCallable = true) : callablePrefix entries = entries :=
  List.takeWhile_eq_self_iff.mpr callable

theorem firstRefusal?_eq_none_iff {entries : List StepEntry} :
    firstRefusal? entries = none ↔ ∀ entry ∈ entries, entry.isCallable = true := by
  rw [firstRefusal?, Option.map_eq_none_iff, List.find?_eq_none]
  simp

end StepEntry

namespace Registry

open StepEntry

/-- The registry after entries were added one by one, if none of them is refused. -/
def addEach (registry : Registry) (entries : List StepEntry) : Except NotCallable Registry :=
  entries.foldlM (fun current entry => (current.add entry).map Prod.fst) registry

/-- A request for one entry, or for several in a row. -/
inductive Request where
  | add (entry : StepEntry)
  | addAll (entries : List StepEntry)

namespace Request

/-- The registry after a request, and the fault that the request ends with. -/
def perform (registry : Registry) : Request → Registry × Option NotCallable
  | add entry =>
    match registry.add entry with
    | .ok (extended, _) => (extended, none)
    | .error fault => (registry, some fault)
  | addAll entries => ((registry.addAll entries).1, (registry.addAll entries).2.2)

def entries : Request → List StepEntry
  | add entry => [entry]
  | addAll entries => entries

end Request

/-- The registry after requests, whether they failed or not. -/
def afterRequests (registry : Registry) (requests : List Request) : Registry :=
  requests.foldl (fun current request => (request.perform current).1) registry

theorem exists_define_of_isCallable {entry : StepEntry} (callable : entry.isCallable = true) :
    ∃ definition, define entry = .ok definition := by
  unfold isCallable at callable
  unfold define
  cases handled : entry.handler with
  | action action => exact ⟨_, rfl⟩
  | other value =>
      rw [handled] at callable
      cases callable

theorem define_of_not_isCallable {entry : StepEntry} (refused : entry.isCallable = false) :
    define entry = .error entry.refusal := by
  unfold isCallable at refused
  unfold define
  cases handled : entry.handler with
  | action action =>
      rw [handled] at refused
      cases refused
  | other value => rfl

variable (registry : Registry)

theorem add_of_isCallable {entry : StepEntry} (callable : entry.isCallable = true) :
    ∃ definition, define entry = .ok definition ∧
      registry.add entry = .ok (registry.attempt entry, definition) := by
  obtain ⟨definition, defined⟩ := exists_define_of_isCallable callable
  refine ⟨definition, defined, ?_⟩
  rw [attempt_of_ok defined, add, defined]
  rfl

theorem add_of_not_isCallable {entry : StepEntry} (refused : entry.isCallable = false) :
    registry.add entry = .error entry.refusal := by
  rw [add, define_of_not_isCallable refused]
  rfl

theorem added_cons_of_ok {entry : StepEntry} {definition : StepDefinition}
    (defined : define entry = .ok definition) (rest : List StepEntry) :
    added (entry :: rest) = definition :: added rest := by
  rw [added, List.filterMap_cons, defined]
  rfl

/-- Several additions at once: the entries ahead of the first that cannot be called are added, and
the fault is that of this one. -/
theorem addAll_eq (entries : List StepEntry) :
    registry.addAll entries =
      ((callablePrefix entries).foldl attempt registry, added (callablePrefix entries),
        firstRefusal? entries) := by
  -- The registry is generalized: the rest is added to what the first entry has left.
  induction entries generalizing registry with
  | nil => rfl
  | cons entry rest ih =>
      rw [addAll, callablePrefix, firstRefusal?, List.takeWhile_cons, List.find?_cons]
      cases callable : entry.isCallable with
      | false =>
          rw [registry.add_of_not_isCallable callable]
          rfl
      | true =>
          obtain ⟨definition, defined, adds⟩ := registry.add_of_isCallable callable
          rw [adds]
          simp only [ih, Bool.not_true, if_true]
          rw [← callablePrefix, ← firstRefusal?, added_cons_of_ok defined, List.foldl_cons]

theorem length_added_of_callable {entries : List StepEntry}
    (callable : ∀ entry ∈ entries, entry.isCallable = true) :
    (added entries).length = entries.length := by
  induction entries with
  | nil => rfl
  | cons entry rest ih =>
      obtain ⟨first, others⟩ := List.forall_mem_cons.mp callable
      obtain ⟨definition, defined⟩ := exists_define_of_isCallable first
      rw [added_cons_of_ok defined, List.length_cons, List.length_cons, ih others]

theorem addEach_of_callable {entries : List StepEntry}
    (callable : ∀ entry ∈ entries, entry.isCallable = true) :
    registry.addEach entries = .ok (entries.foldl attempt registry) := by
  induction entries generalizing registry with
  | nil => rfl
  | cons entry rest ih =>
      obtain ⟨first, others⟩ := List.forall_mem_cons.mp callable
      obtain ⟨definition, -, adds⟩ := registry.add_of_isCallable first
      have later : (registry.attempt entry).addEach rest =
          .ok (rest.foldl attempt (registry.attempt entry)) := ih _ others
      rw [addEach, List.foldlM_cons, adds]
      exact later

/-- The entries that several additions at once leave in the registry could have been added one by
one. -/
theorem addEach_callablePrefix (entries : List StepEntry) :
    registry.addEach (callablePrefix entries) = .ok (registry.addAll entries).1 := by
  have callable : ∀ entry ∈ callablePrefix entries, entry.isCallable = true :=
    fun entry member => List.mem_takeWhile_imp member
  rw [registry.addEach_of_callable callable, addAll_eq]

/-- After additions that succeeded, more of them can be made in the same go or in one of their
own. -/
theorem addAll_append {entries : List StepEntry}
    (succeeds : (registry.addAll entries).2.2 = none) (more : List StepEntry) :
    registry.addAll (entries ++ more) =
      (((registry.addAll entries).1.addAll more).1,
        (registry.addAll entries).2.1 ++ ((registry.addAll entries).1.addAll more).2.1,
        ((registry.addAll entries).1.addAll more).2.2) := by
  rw [addAll_eq] at succeeds
  have callable := firstRefusal?_eq_none_iff.mp succeeds
  have onward : callablePrefix (entries ++ more) = entries ++ callablePrefix more :=
    List.takeWhile_append_of_pos callable
  have nothingRefused : entries.find? (fun entry => !entry.isCallable) = none :=
    Option.map_eq_none_iff.mp succeeds
  have sameFault : firstRefusal? (entries ++ more) = firstRefusal? more := by
    rw [firstRefusal?, List.find?_append, nothingRefused, Option.none_or, firstRefusal?]
  have definitions : added (entries ++ callablePrefix more) =
      added entries ++ added (callablePrefix more) := List.filterMap_append ..
  rw [addAll_eq, addAll_eq, addAll_eq, onward, sameFault, callablePrefix_eq_self callable,
    definitions, List.foldl_append]

/-- What a request leaves behind and what it raises, whichever of the two kinds it is. -/
theorem perform_eq (request : Request) :
    request.perform registry =
      ((callablePrefix request.entries).foldl attempt registry,
        firstRefusal? request.entries) := by
  cases request with
  | addAll entries => rw [Request.perform, addAll_eq, Request.entries]
  | add entry =>
      have single : registry.addAll [entry] = _ := registry.addAll_eq [entry]
      rw [Request.perform, Request.entries, callablePrefix, firstRefusal?, List.takeWhile_cons,
        List.find?_singleton]
      cases callable : entry.isCallable with
      | false =>
          rw [registry.add_of_not_isCallable callable]
          rfl
      | true =>
          obtain ⟨definition, -, adds⟩ := registry.add_of_isCallable callable
          rw [adds]
          rfl

theorem afterRequests_eq (requests : List Request) :
    registry.afterRequests requests =
      (requests.flatMap fun request => callablePrefix request.entries).foldl attempt registry := by
  induction requests generalizing registry with
  | nil => rfl
  | cons request rest ih =>
      have first : (request.perform registry).1 =
          (callablePrefix request.entries).foldl attempt registry :=
        congrArg Prod.fst (registry.perform_eq request)
      rw [List.flatMap_cons, List.foldl_append, ← first]
      exact ih _

/-- Additions that fail leave the registry as it was.  One refused entry changes nothing.  Of
several entries exactly those ahead of the first that cannot be called are added, as if one by
one; the addition fails exactly if there is such an entry, with the fault of the first.  After a
success more entries can follow in the same go.  And after any requests the registry is the one
with the entries ahead of their faults, so that no lookup can tell of the failed ones. -/
theorem additions_keepUpToRefusal (registry : Registry) :
    (∀ entry : StepEntry, entry.isCallable = false →
      registry.add entry = .error entry.refusal ∧
        registry.addAll [entry] = (registry, [], some entry.refusal) ∧
        (Request.add entry).perform registry = (registry, some entry.refusal)) ∧
    (∀ entries : List StepEntry,
      registry.addEach (callablePrefix entries) = .ok (registry.addAll entries).1 ∧
        (registry.addAll entries).2.2 = firstRefusal? entries ∧
        ((registry.addAll entries).2.2 = none ↔ ∀ entry ∈ entries, entry.isCallable = true)) ∧
    (∀ entries more : List StepEntry, (registry.addAll entries).2.2 = none →
      registry.addEach entries = .ok (registry.addAll entries).1 ∧
        registry.addAll (entries ++ more) =
          (((registry.addAll entries).1.addAll more).1,
            (registry.addAll entries).2.1 ++ ((registry.addAll entries).1.addAll more).2.1,
            ((registry.addAll entries).1.addAll more).2.2)) ∧
    ∀ requests : List Request,
      registry.addEach (requests.flatMap fun request => callablePrefix request.entries) =
        .ok (registry.afterRequests requests) := by
  refine ⟨fun entry refused => ?_, fun entries => ?_, fun entries more succeeds => ?_,
    fun requests => ?_⟩
  · have nothing : callablePrefix [entry] = [] := by simp [callablePrefix, refused]
    have fault : firstRefusal? [entry] = some entry.refusal := by simp [firstRefusal?, refused]
    refine ⟨registry.add_of_not_isCallable refused, ?_, ?_⟩
    · rw [addAll_eq, nothing, fault]
      rfl
    · rw [perform_eq, Request.entries, nothing, fault]
      rfl
  · have fault : (registry.addAll entries).2.2 = firstRefusal? entries := by rw [addAll_eq]
    refine ⟨registry.addEach_callablePrefix entries, fault, ?_⟩
    rw [fault]
    exact firstRefusal?_eq_none_iff
  · have callable : ∀ entry ∈ entries, entry.isCallable = true := by
      rw [addAll_eq] at succeeds
      exact firstRefusal?_eq_none_iff.mp succeeds
    have oneByOne := registry.addEach_callablePrefix entries
    rw [callablePrefix_eq_self callable] at oneByOne
    exact ⟨oneByOne, registry.addAll_append succeeds more⟩
  · rw [afterRequests_eq]
    -- Every entry ahead of the fault of its request can be called.
    refine registry.addEach_of_callable fun entry member => ?_
    obtain ⟨request, -, ahead⟩ := List.mem_flatMap.mp member
    exact List.mem_takeWhile_imp ahead

/-- A refused entry between two others: the second is not added, and the one after it is found only
when it is asked for once more. -/
theorem additions_keepUpToRefusal_between :
    let passing : Action := ⟨.either, .done⟩
    let first : StepEntry := ⟨"Given".toList, .text "go".toList, .action passing⟩
    let refused : StepEntry := ⟨"Given".toList, .text "stay".toList, .other .null⟩
    let last : StepEntry := ⟨"step".toList, .text "stop".toList, .action passing⟩
    let requests : List Request := [.addAll [first, refused, last], .add refused, .add last]
    refused.isCallable = false ∧
      Registry.empty.addAll [refused] = (.empty, [], some refused.refusal) ∧
      (Registry.empty.addAll [first, refused, last]).2.2 = some refused.refusal ∧
      (Registry.empty.addAll [first]).2.2 = none ∧
      Registry.empty.addAll [first, last] =
        (((Registry.empty.addAll [first]).1.addAll [last]).1,
          (Registry.empty.addAll [first]).2.1 ++
            ((Registry.empty.addAll [first]).1.addAll [last]).2.1,
          ((Registry.empty.addAll [first]).1.addAll [last]).2.2) ∧
      Registry.empty.addEach [first, last] = .ok (Registry.empty.afterRequests requests) := by
  intro passing first refused last requests
  obtain ⟨single, several, onward, history⟩ := additions_keepUpToRefusal .empty
  have succeeds : (Registry.empty.addAll [first]).2.2 = none := rfl
  exact ⟨rfl, (single refused rfl).2.1, (several [first, refused, last]).2.1, succeeds,
    (onward [first] [last] succeeds).2, history requests⟩

end Registry

end FeatureRunner
