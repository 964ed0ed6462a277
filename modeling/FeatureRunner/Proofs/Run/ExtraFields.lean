import FeatureRunner.Proofs.Action.SecondArgument
import FeatureRunner.Proofs.Registry.Lookup
import FeatureRunner.Run.Execution
import Mathlib.Data.List.Forall2

/-!
# Runs with and without a second argument

A run learns of its actions only by calling them: all that a dispatcher makes of a step is told by
the pattern that is found, by the match, and by what the action does when it is called.  Two
dispatchers that agree on this for every step run every feature in the same way.

So the second argument of actions is another name for the stash of the step, and nothing else: a
run does not change if actions use the one name in the place of the other, nor if actions that
make no use of the second argument go without it.
-/

namespace FeatureRunner

namespace Dispatcher

/-- What a dispatcher finds for a step: the source of the pattern, the match, and what the action
does when it is called. -/
def answer? (dispatcher : Dispatcher) (verb text : Text) :
    Option (Text × PatternMatch × (ActionState → Option Failure × ActionState)) :=
  (dispatcher.registry.find verb text).map fun found =>
    (found.1.pattern.source, found.2, found.1.action.call dispatcher.extraFields)

section Agreement

variable {dispatcher other : Dispatcher}

theorem runDefinition_congr (debugging : other.mode.debugging = dispatcher.mode.debugging)
    {definition otherDefinition : StepDefinition}
    (source : otherDefinition.pattern.source = definition.pattern.source)
    (calls : otherDefinition.action.call other.extraFields =
      definition.action.call dispatcher.extraFields) (found : PatternMatch) :
    other.runDefinition otherDefinition found = dispatcher.runDefinition definition found := by
  have invokes : other.invoke otherDefinition.action = dispatcher.invoke definition.action := by
    unfold invoke
    rw [calls]
  have records : other.recordFailure = dispatcher.recordFailure := by
    funext failure
    unfold recordFailure noticeError noticeFlaw?
    rw [debugging]
  unfold runDefinition
  rw [source, invokes, records]

variable (agree : ∀ verb text, other.answer? verb text = dispatcher.answer? verb text)
  (debugging : other.mode.debugging = dispatcher.mode.debugging)

include agree debugging

theorem dispatch_congr : other.dispatch = dispatcher.dispatch := by
  funext shortCircuit
  unfold dispatch
  split
  · rfl
  · refine congrArg (get >>= ·) (funext fun state => ?_)
    have same := agree state.context.verb state.context.text
    unfold answer? at same
    cases sought : dispatcher.registry.find state.context.verb state.context.text with
    | none =>
        rw [sought, Option.map_none, Option.map_eq_none_iff] at same
        simp only [sought, same]
    | some found =>
        rw [sought, Option.map_some, Option.map_eq_some_iff] at same
        obtain ⟨⟨otherDefinition, otherMatch⟩, otherSought, parts⟩ := same
        obtain ⟨source, rest⟩ := Prod.mk.inj parts
        obtain ⟨sameMatch, calls⟩ := Prod.mk.inj rest
        obtain rfl : otherMatch = found.2 := sameMatch
        simp only [sought, otherSought]
        exact runDefinition_congr debugging source calls found.2

theorem runStep_congr : other.runStep = dispatcher.runStep := by
  unfold runStep
  rw [dispatch_congr agree debugging]

theorem runSteps_congr (row : Record) (steps : List Step) :
    other.runSteps row steps = dispatcher.runSteps row steps := by
  induction steps with
  | nil => rfl
  | cons step rest ih => rw [runSteps, runSteps, runStep_congr agree debugging, ih]

theorem runRow_congr : other.runRow = dispatcher.runRow := by
  funext sharing scenario before row
  have notices : other.noticeRow = dispatcher.noticeRow := by
    funext scenario row
    rw [noticeRow, noticeRow, noticeFlaw?, noticeFlaw?, debugging]
  rw [runRow, runRow, notices, runSteps_congr agree debugging]

theorem runRows_congr (sharing : RowSharing) (scenario : Scenario) (before : RunM (List Result))
    (rows : List Record) :
    other.runRows sharing scenario before rows =
      dispatcher.runRows sharing scenario before rows := by
  induction rows with
  | nil => rfl
  | cons row rest ih => rw [runRows, runRows, runRow_congr agree debugging, ih]

theorem runBackground_congr (background : Option Scenario) :
    other.runBackground background = dispatcher.runBackground background := by
  cases background with
  | none => rfl
  | some background => exact runRows_congr agree debugging ..

theorem runScenario_congr : other.runScenario = dispatcher.runScenario := by
  funext sharing background scenario
  rw [runScenario, runScenario, runBackground_congr agree debugging, runRows_congr agree debugging]

theorem runScenarios_congr (background : Option Scenario) (scenarios : List Scenario) :
    other.runScenarios background scenarios = dispatcher.runScenarios background scenarios := by
  induction scenarios with
  | nil => rfl
  | cons scenario rest ih => rw [runScenarios, runScenarios, runScenario_congr agree debugging, ih]

/-- Dispatchers that agree on what they find for every step, and on whether notices have to be put
into words, run every feature in the same way. -/
theorem runFeature_congr (selection : Selection) (feature : Feature) :
    other.runFeature selection feature = dispatcher.runFeature selection feature := by
  unfold runFeature
  simp only [runScenarios_congr agree debugging]

end Agreement

end Dispatcher

/-- A definition whose action is rewritten. -/
structure StepDefinition.Rewritten (definition other : StepDefinition) : Prop where
  verb : other.verb = definition.verb
  pattern : other.pattern = definition.pattern
  action : definition.action.Rewritten other.action

namespace Registry

/-- A registry in which actions are rewritten, each at some of its uses of the second argument. -/
def Rewritten (registry other : Registry) : Prop :=
  List.Forall₂ (fun bucket otherBucket => otherBucket.1 = bucket.1 ∧
    List.Forall₂ StepDefinition.Rewritten bucket.2 otherBucket.2) registry.buckets other.buckets

theorem forall₂_bucket {buckets others : List (Text × List StepDefinition)}
    (rewritten : List.Forall₂ (fun bucket otherBucket => otherBucket.1 = bucket.1 ∧
      List.Forall₂ StepDefinition.Rewritten bucket.2 otherBucket.2) buckets others)
    (wanted : Text) :
    List.Forall₂ StepDefinition.Rewritten (bucket buckets wanted) (bucket others wanted) := by
  induction rewritten with
  | nil => exact .nil
  | cons here _ ih =>
      obtain ⟨sameVerb, definitions⟩ := here
      rw [bucket, bucket, sameVerb]
      split
      · exact definitions
      · exact ih

variable {registry other : Registry}

theorem Rewritten.candidates (rewritten : registry.Rewritten other) (verb : Text) :
    List.Forall₂ StepDefinition.Rewritten (registry.candidates verb) (other.candidates verb) := by
  rw [Registry.candidates, Registry.candidates]
  refine List.rel_append (forall₂_bucket rewritten _) ?_
  split
  · exact .nil
  · exact forall₂_bucket rewritten _

/-- In rewritten definitions the same one is found, with the same match, and its action does the
same. -/
theorem firstMatch_of_rewritten {definitions others : List StepDefinition}
    (rewritten : List.Forall₂ StepDefinition.Rewritten definitions others) (text : Text) :
    (firstMatch text others).map (fun found =>
        (found.1.pattern.source, found.2, found.1.action.call true)) =
      (firstMatch text definitions).map fun found =>
        (found.1.pattern.source, found.2, found.1.action.call true) := by
  induction rewritten with
  | nil => rfl
  | cons here _ ih =>
      rw [firstMatch, firstMatch, here.pattern]
      split
      · rw [Option.map_some, Option.map_some, here.pattern, here.action.call_eq]
      · exact ih

end Registry

namespace Dispatcher

theorem answer?_of_rewritten {registry other : Registry} (rewritten : registry.Rewritten other)
    (debugging : Bool) (verb text : Text) :
    (Dispatcher.mk other ⟨true, debugging⟩).answer? verb text =
      (Dispatcher.mk registry ⟨true, debugging⟩).answer? verb text :=
  Registry.firstMatch_of_rewritten (rewritten.candidates verb) text

/-- The actions of a registry make no use of a second argument. -/
def IgnoresSecond (registry : Registry) : Prop :=
  ∀ bucket ∈ registry.buckets, ∀ definition ∈ bucket.2, definition.action.IgnoresSecond

theorem answer?_of_ignoresSecond {registry : Registry} (ignores : IgnoresSecond registry)
    (debugging : Bool) (verb text : Text) :
    (Dispatcher.mk registry ⟨false, debugging⟩).answer? verb text =
      (Dispatcher.mk registry ⟨true, debugging⟩).answer? verb text := by
  refine Option.map_congr fun found sought => ?_
  obtain ⟨bucket, among, member⟩ := Registry.exists_bucket_of_find sought
  rw [(ignores bucket among found.1 member).call_eq]

/-- The second argument of actions adds another name for the stash of the step, and nothing else.
Where actions get it, rewriting some of its uses into uses of the context leaves every run of a
feature as it was, with its outcome, stashes and journal.  And if all actions take one or two
arguments and make no use of the second, runs with it and without it are the same. -/
theorem runFeature_aliasOnly :
    (∀ registry other : Registry, registry.Rewritten other →
      ∀ (debugging : Bool) (selection : Selection) (feature : Feature) (state : RunState),
        ((Dispatcher.mk other ⟨true, debugging⟩).runFeature selection feature).run state =
          ((Dispatcher.mk registry ⟨true, debugging⟩).runFeature selection feature).run state) ∧
    ∀ registry : Registry, IgnoresSecond registry →
      ∀ (debugging : Bool) (selection : Selection) (feature : Feature) (state : RunState),
        ((Dispatcher.mk registry ⟨false, debugging⟩).runFeature selection feature).run state =
          ((Dispatcher.mk registry ⟨true, debugging⟩).runFeature selection feature).run state := by
  constructor
  · intro registry other rewritten debugging selection feature state
    rw [runFeature_congr (answer?_of_rewritten rewritten debugging) rfl]
  · intro registry ignores debugging selection feature state
    rw [runFeature_congr (answer?_of_ignoresSecond ignores debugging) rfl]

/-- The action writes to its second argument and reads, by either name, what it wrote. -/
theorem runFeature_aliasOnly_mixed :
    let program (scope : StashScope) : ActionProgram :=
      .perform (.remember .extra ['n'] (.int 1)) fun _ =>
        .perform (.stash scope) fun reply =>
          .perform (.ok (Record.has (reply.toOption.getD .null).fields ['n']) []) fun _ => .done
    let single (action : Action) : Registry :=
      ⟨[([], [⟨[], ⟨[], ⟨false, false, false⟩, .sequence [], 0⟩, action⟩])]⟩
    let idle := single ⟨.either, .perform .text fun _ => .done⟩
    let feature : Feature := ⟨[], [⟨[], [⟨[], [], .null, .null⟩], [], false, []⟩], none, []⟩
    let state : RunState := ⟨.start .silent, [], [], .idle⟩
    let run (registry : Registry) (extraFields : Bool) :=
      ((Dispatcher.mk registry extraFields).runFeature .everything feature).run state
    (single ⟨.two, program .extra⟩).Rewritten (single ⟨.two, program .step⟩) ∧
      run (single ⟨.two, program .step⟩) true = run (single ⟨.two, program .extra⟩) true ∧
      (run (single ⟨.two, program .step⟩) true).1.toOption.map (·.map Result.status) =
        some [.passing] ∧
      IgnoresSecond idle ∧ run idle false = run idle true := by
  intro program single idle feature state run
  have programs : (program .extra).Rewritten (program .step) :=
    .kept _ fun _ => .read fun _ => .refl _
  have rewritten : (single ⟨.two, program .extra⟩).Rewritten (single ⟨.two, program .step⟩) :=
    .cons ⟨rfl, .cons ⟨rfl, rfl, rfl, programs⟩ .nil⟩ .nil
  have ignores : IgnoresSecond idle := by
    intro bucket among definition member
    rw [List.mem_singleton.mp among] at member
    rw [List.mem_singleton.mp member]
    exact ⟨rfl, fun _ => ⟨rfl, trivial⟩⟩
  obtain ⟨renamed, without⟩ := runFeature_aliasOnly
  exact ⟨rewritten, renamed _ _ rewritten false .everything feature state, by decide +kernel,
    ignores, without idle ignores false .everything feature state⟩

end Dispatcher

end FeatureRunner
