import FeatureRunner.Proofs.Run.Listening

/-!
# The lifetimes of stashes

Reading the journal of a feature from its beginning, one can keep an account of the stashes: the
feature stash is the one that the last action left, the scenario stash too, except that it is
empty again when a row begins that runs in no other row, and the stash of a step is always empty.

This file keeps the account, and proves that every action invoked in a run of a feature finds
exactly the stashes of the account, together with the data of its step as the feature has them.
Steps without an action change no stash.
-/

namespace FeatureRunner

/-- What can be known of the stashes from the events so far: their contents, how many rows are
open, and the step that began last. -/
structure StashAccount where
  feature : Record
  scenario : Record
  depth : Nat
  step : Option Step

namespace StashAccount

/-- The account at the beginning of a feature. -/
def start : StashAccount := ⟨[], [], 0, none⟩

/-- A row begins: with an empty scenario stash, unless it runs in another row. -/
def enter (account : StashAccount) : StashAccount :=
  { account with
    scenario := if account.depth = 0 then [] else account.scenario
    depth := account.depth + 1 }

/-- A row ends. -/
def leave (account : StashAccount) : StashAccount := { account with depth := account.depth - 1 }

/-- The account after one more entry of the journal. -/
def note (account : StashAccount) : JournalEntry → StashAccount
  | .callback (.scenarioStarted _ _ _) => account.enter
  | .callback (.backgroundStarted _ _ _) => account.enter
  | .callback (.scenarioFinished _ _) => account.leave
  | .callback (.backgroundFinished _ _) => account.leave
  | .callback (.stepStarted context) => { account with step := some context.step }
  | .invocation _ after =>
    { account with feature := after.stash.feature, scenario := after.stash.scenario }
  | _ => account

/-- An action is invoked for the step that began last, on the stashes of the account and an empty
stash of its own, with the data of the step. -/
def Allows (account : StashAccount) : JournalEntry → Prop
  | .invocation before _ =>
    account.step = some before.step ∧
      before.stash = ⟨account.feature, account.scenario, []⟩ ∧
      before.data = before.step.data
  | _ => True

/-- Every entry is allowed by the account of the entries before it. -/
def Accounted (account : StashAccount) : Journal → Prop
  | [] => True
  | entry :: rest => account.Allows entry ∧ Accounted (account.note entry) rest

theorem accounted_append {account : StashAccount} {first second : Journal}
    (front : account.Accounted first) (back : (first.foldl note account).Accounted second) :
    account.Accounted (first ++ second) := by
  induction first generalizing account with
  | nil => exact back
  | cons entry rest ih => exact ⟨front.1, ih front.2 back⟩

/-- An account fits where a run stands with so many rows open.  Outside of all rows the scenario
stash does not count. -/
structure Fits (account : StashAccount) (standing : Standing) (depth : Nat) : Prop where
  feature : account.feature = standing.featureStash
  scenario : 0 < depth → account.scenario = standing.scenarioStash
  depth_eq : account.depth = depth

/-- The course of a step is accounted for, and keeps the account of its stashes. -/
theorem accounted_course {course : StepCourse} {context : StepContext} {account : StashAccount}
    (belongs : course.BelongsTo context) (data : context.data = context.step.data)
    (stash : context.stash = ⟨account.feature, account.scenario, []⟩) :
    account.Accounted course.events ∧
      course.events.foldl note account =
        { account with
          step := some context.step
          feature := course.ended.stash.feature
          scenario := course.ended.stash.scenario } := by
  rcases course with ⟨started, invocation, ended, outcome⟩
  have begun : started.step = context.step := belongs.started_step
  cases invocation with
  | none =>
      have same : ended.stash = context.stash := (belongs.uninvoked rfl).1
      rw [stash] at same
      cases outcome <;>
        simp [StepCourse.events, StepCourse.closing, Accounted, Allows, note, begun, same]
  | some contexts =>
      obtain ⟨before, after⟩ := contexts
      obtain ⟨sameData, sameStash, left⟩ := belongs.invoked before after rfl
      have sameStep : before.step = context.step := by
        rw [belongs.invoked_started before after rfl]
        exact begun
      have ownData : before.data = before.step.data := by
        rw [sameData, data, sameStep]
      rw [stash] at sameStash
      simp only at left
      cases outcome <;>
        simp [StepCourse.events, StepCourse.closing, Accounted, Allows, note, begun, sameStep,
          sameStash, ownData, left]

end StashAccount

/-- The steps of a feature of which these scenarios are selected. -/
def Feature.steps (feature : Feature) (selected : List Scenario) : List Step :=
  selected.flatMap Scenario.steps ++ feature.background.toList.flatMap Scenario.steps

namespace Dispatcher

variable (dispatcher : Dispatcher)

open StashAccount

theorem note_rowStarted (account : StashAccount) (scenario : Scenario) (row : Record)
    (longestLine : Value) :
    account.note (.callback (rowStarted scenario row longestLine)) = account.enter := by
  unfold rowStarted
  split <;> rfl

theorem note_rowFinished (account : StashAccount) (scenario : Scenario) (row : Record) :
    account.note (.callback (rowFinished scenario row)) = account.leave := by
  unfold rowFinished
  split <;> rfl

/-- A move is accounted for, and keeps the account of the stashes. -/
theorem accounted_passage {move : Move} (ready : dispatcher.obstacle? move = none)
    {account : StashAccount} {standing : Standing} {depth after : Nat}
    (fits : account.Fits standing depth) (comes : move.depthAfter? depth = some after) :
    account.Accounted (dispatcher.passage move standing).events ∧
      ((dispatcher.passage move standing).events.foldl note account).Fits
        (dispatcher.passage move standing).standing after := by
  cases move with
  | openRow sharing scenario row =>
      simp only [Move.depthAfter?, Option.ite_none_right_eq_some, Option.some.injEq] at comes
      obtain ⟨shares, rfl⟩ := comes
      rw [dispatcher.passage_openRow (Option.map_eq_none_iff.mp ready)]
      refine ⟨⟨by trivial, trivial⟩, ?_⟩
      rw [List.foldl_cons, List.foldl_nil, note_rowStarted]
      refine ⟨fits.feature, ?_, by simp [enter, fits.depth_eq]⟩
      intro _
      rcases Nat.eq_zero_or_pos depth with outside | inside
      · simp [enter, Standing.enterRow, fits.depth_eq, shares, outside]
      · have within : depth ≠ 0 := by omega
        simp [enter, Standing.enterRow, fits.depth_eq, shares, inside, within,
          fits.scenario inside]
  | closeRow scenario row =>
      simp only [Move.depthAfter?, Option.ite_none_right_eq_some, Option.some.injEq] at comes
      obtain ⟨inside, rfl⟩ := comes
      rw [passage_closeRow]
      refine ⟨⟨by trivial, trivial⟩, ?_⟩
      rw [List.foldl_cons, List.foldl_nil, note_rowFinished]
      exact ⟨fits.feature, fun _ => fits.scenario inside, by simp [leave, fits.depth_eq]⟩
  | step row step =>
      simp only [Move.depthAfter?, Option.ite_none_right_eq_some, Option.some.injEq] at comes
      obtain ⟨inside, rfl⟩ := comes
      have found : (StepContext.build step (step.shownText row) standing.featureStash
          standing.scenarioStash).stash = ⟨account.feature, account.scenario, []⟩ := by
        rw [fits.feature, fits.scenario inside]
        rfl
      obtain ⟨accounted, kept⟩ := accounted_course
        (dispatcher.stepCourse_belongsTo row step standing) rfl found
      rw [dispatcher.events_passage_step ready, kept]
      refine ⟨accounted, ?_⟩
      cases outcome : (dispatcher.stepCourse row step standing).outcome with
      | ok result =>
          rw [dispatcher.passage_step_of_ok ready outcome]
          exact ⟨rfl, fun _ => rfl, fits.depth_eq⟩
      | error abort =>
          rw [dispatcher.passage_step_of_error ready outcome]
          exact ⟨rfl, fun _ => rfl, fits.depth_eq⟩

/-- A walk is accounted for, up to the feature stash that it leaves. -/
theorem accounted_walk {moves : List Move} {account : StashAccount} {standing : Standing}
    {depth after : Nat} (fits : account.Fits standing depth)
    (comes : moves.foldlM Move.depthAfter? depth = some after) :
    account.Accounted (dispatcher.walk moves standing).events ∧
      ((dispatcher.walk moves standing).events.foldl note account).feature =
        (dispatcher.walk moves standing).standing.featureStash := by
  induction moves generalizing account standing depth with
  | nil => exact ⟨trivial, fits.feature⟩
  | cons move rest ih =>
      rw [List.foldlM_cons] at comes
      obtain ⟨between, comesFirst, comesLater⟩ := Option.bind_eq_some_iff.mp comes
      cases obstacle : dispatcher.obstacle? move with
      | some failure =>
          rw [dispatcher.walk_cons_of_obstacle obstacle]
          exact ⟨trivial, fits.feature⟩
      | none =>
        obtain ⟨accounted, stillFits⟩ := dispatcher.accounted_passage obstacle fits comesFirst
        cases own : (dispatcher.passage move standing).outcome with
        | error abort =>
            rw [dispatcher.walk_cons_of_error own]
            exact ⟨accounted, stillFits.feature⟩
        | ok results =>
            rw [dispatcher.walk_cons_of_ok own]
            obtain ⟨others, left⟩ := ih stillFits comesLater
            refine ⟨accounted_append accounted others, ?_⟩
            rw [List.foldl_append]
            exact left

/-- An action that a move invokes is invoked for its step. -/
theorem exists_step_of_mem_invocations {move : Move} {standing : Standing}
    {invocation : StepContext × StepContext}
    (member : invocation ∈ (dispatcher.passage move standing).events.invocations) :
    ∃ row, move = .step row invocation.1.step := by
  cases obstacle : dispatcher.obstacle? move with
  | some failure =>
      rw [dispatcher.passage_of_obstacle obstacle] at member
      cases member
  | none =>
    cases move with
    | openRow sharing scenario row =>
        rw [dispatcher.passage_openRow (Option.map_eq_none_iff.mp obstacle)] at member
        cases member
    | closeRow scenario row => cases member
    | step row step =>
        have invoked : (dispatcher.stepCourse row step standing).invocation =
            some invocation := by
          rw [dispatcher.events_passage_step obstacle] at member
          simpa using member
        have belongs := dispatcher.stepCourse_belongsTo row step standing
        have sameStep : invocation.1.step = step := by
          rw [belongs.invoked_started invocation.1 invocation.2 invoked]
          exact belongs.started_step
        exact ⟨row, by rw [sameStep]⟩

/-- Every action of a walk is invoked for a step of its moves. -/
theorem subject_of_invocation {moves : List Move} {standing : Standing}
    {invocation : StepContext × StepContext}
    (member : invocation ∈ (dispatcher.walk moves standing).events.invocations) :
    ∃ row, .step row invocation.1.step ∈ moves := by
  induction moves generalizing standing with
  | nil => cases member
  | cons move rest ih =>
      have here (among : invocation ∈ (dispatcher.passage move standing).events.invocations) :
          ∃ row, .step row invocation.1.step ∈ move :: rest := by
        obtain ⟨row, rfl⟩ := dispatcher.exists_step_of_mem_invocations among
        exact ⟨row, List.mem_cons_self⟩
      cases own : (dispatcher.passage move standing).outcome with
      | error abort =>
          rw [dispatcher.walk_cons_of_error own] at member
          exact here member
      | ok results =>
          rw [dispatcher.walk_cons_of_ok own, Journal.invocations_append] at member
          rcases List.mem_append.mp member with now | later
          · exact here now
          · obtain ⟨row, among⟩ := ih later
            exact ⟨row, List.mem_cons_of_mem _ among⟩

theorem mem_of_step_mem_rowMoves {sharing : RowSharing} {scenario : Scenario}
    {before : List Move} {row ownRow : Record} {step : Step}
    (member : .step ownRow step ∈ scenario.rowMoves sharing before row) :
    .step ownRow step ∈ before ∨ step ∈ scenario.steps := by
  simp only [Scenario.rowMoves, List.mem_cons, List.mem_append, List.mem_map, reduceCtorEq,
    Move.step.injEq, List.not_mem_nil, or_false, false_or] at member
  rcases member with ahead | ⟨own, among, -, rfl⟩
  · exact .inl ahead
  · exact .inr among

theorem mem_steps_of_step_mem {selection : Selection} {feature : Feature} {row : Record}
    {step : Step} (member : .step row step ∈ featureMoves selection feature) :
    step ∈ feature.steps (selection.apply feature) := by
  obtain ⟨⟨scenario, ownRow⟩, selected, among⟩ := List.mem_flatMap.mp member
  apply List.mem_append.mpr
  rcases mem_of_step_mem_rowMoves among with replayed | own
  · right
    cases background : feature.background with
    | none =>
        rw [background] at replayed
        cases replayed
    | some background =>
        rw [background] at replayed
        obtain ⟨backgroundRow, _, within⟩ := List.mem_flatMap.mp replayed
        rcases mem_of_step_mem_rowMoves within with nothing | own
        · cases nothing
        · simpa using own
  · left
    obtain ⟨other, among, paired⟩ := List.mem_flatMap.mp selected
    obtain ⟨_, _, same⟩ := List.mem_map.mp paired
    have sameScenario : other = scenario := congrArg Prod.fst same
    exact List.mem_flatMap.mpr ⟨scenario, sameScenario ▸ among, own⟩

/-- A step for which no action is invoked changes no stash. -/
theorem runStep_stash_of_not_invoked (row : Record) (step : Step) (state : RunState)
    (uninvoked : ((dispatcher.runStep row step).run state).2.observer.journal.invocations =
      state.observer.journal.invocations) :
    ((dispatcher.runStep row step).run state).2.featureStash = state.featureStash ∧
      ((dispatcher.runStep row step).run state).2.scenarioStash = state.scenarioStash := by
  cases obstacle : step.obstacle? row with
  | some failure =>
      obtain ⟨observer, -, ends⟩ := dispatcher.exists_runStep_of_obstacle obstacle state
      rw [ends]
      exact ⟨rfl, rfl⟩
  | none =>
      obtain ⟨observer, grown, leaves⟩ := dispatcher.runStep_leaves obstacle state
      have belongs := dispatcher.stepCourse_belongsTo row step state.standing
      have invocations := Journal.invocations_of_events grown
      rw [leaves] at uninvoked ⊢
      have none : (dispatcher.stepCourse row step state.standing).invocation = none := by
        rw [StepCourse.invocations_events] at invocations
        have empty := invocations.symm.trans uninvoked
        simpa using empty
      have same := (belongs.uninvoked none).1
      exact ⟨congrArg Stash.feature same, congrArg Stash.scenario same⟩

/-- The lifetimes of stashes.  In a run of a feature, whether it returns or not, every action is
invoked for a step of the feature on the stashes that the account of the events before it has,
the feature stash is at the end the one of the account, and a step for which no action is invoked
changes no stash. -/
theorem runFeature_accounted (selection : Selection) (feature : Feature) (state : RunState) :
    (∃ events : Journal,
      ((dispatcher.runFeature selection feature).run state).2.observer.journal.events =
        state.observer.journal.events ++ events ∧
      StashAccount.start.Accounted events ∧
      ((dispatcher.runFeature selection feature).run state).2.featureStash =
        (events.foldl note .start).feature ∧
      ∀ invocation ∈ events.invocations,
        invocation.1.step ∈ feature.steps (selection.apply feature)) ∧
    ∀ (row : Record) (step : Step) (before : RunState),
      ((dispatcher.runStep row step).run before).2.observer.journal.invocations =
          before.observer.journal.invocations →
        ((dispatcher.runStep row step).run before).2.featureStash = before.featureStash ∧
          ((dispatcher.runStep row step).run before).2.scenarioStash =
            before.scenarioStash := by
  refine ⟨?_, dispatcher.runStep_stash_of_not_invoked⟩
  obtain ⟨observer, grown, runs⟩ := dispatcher.exists_run_runFeature selection feature state
  let begun : Standing := { state.standing with featureStash := [] }
  have fits : start.Fits begun 0 := ⟨rfl, fun inside => absurd inside (Nat.lt_irrefl 0), rfl⟩
  obtain ⟨accounted, left⟩ := dispatcher.accounted_walk fits
    (Move.nested_outlineMoves feature.background (Scenario.outlineRows (selection.apply feature)))
  have ofFeature : ∀ invocation ∈
      (dispatcher.featurePassage selection feature state.standing).events.invocations,
      invocation.1.step ∈ feature.steps (selection.apply feature) := by
    intro invocation member
    rw [invocations_featurePassage] at member
    obtain ⟨row, among⟩ := dispatcher.subject_of_invocation member
    exact mem_steps_of_step_mem among
  rw [runs]
  refine ⟨_, grown, ?_⟩
  cases ending : (dispatcher.featureWalk selection feature state.standing).outcome with
  | error abort =>
      rw [featurePassage_of_error ending] at ofFeature ⊢
      exact ⟨⟨trivial, accounted⟩, left.symm, ofFeature⟩
  | ok results =>
      rw [featurePassage_of_ok ending] at ofFeature ⊢
      refine ⟨⟨trivial, accounted_append accounted ⟨trivial, trivial⟩⟩, ?_, ofFeature⟩
      rw [List.foldl_cons, List.foldl_append]
      exact left.symm

end Dispatcher

end FeatureRunner
