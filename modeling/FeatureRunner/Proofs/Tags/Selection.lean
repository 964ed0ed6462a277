import FeatureRunner.Proofs.Run.Signals
import FeatureRunner.Proofs.Tags.Normalization
import Mathlib.Data.List.Basic

/-!
# Which scenarios tags select

A scenario carries its own tags and the feature tags that a spec is bound to.  A spec selects it
if none of these is excluded and, unless nothing is included, one of them is included.

This file proves that filtering keeps exactly the selected scenarios and that a run executes
those that are selected with the tags of the feature added to their own.  How tags are written does
not matter, and neither does what a spec was bound to before.
-/

namespace FeatureRunner

namespace TagSpec

variable {spec : TagSpec} {tags others : List Text} {tag : Text}

/-- The spec bound to no feature. -/
def unbound (spec : TagSpec) : TagSpec := { spec with featureTags := [] }

/-- A scenario with the given tags carries a tag under a spec. -/
def Carries (spec : TagSpec) (tags : List Text) (tag : Text) : Prop :=
  tag ∈ tags.map normalize ∨ tag ∈ spec.featureTags

/-- The scenarios that a spec selects, by their tags. -/
structure Selects (spec : TagSpec) (tags : List Text) : Prop where
  unexcluded : ∀ tag, spec.Carries tags tag → tag ∉ spec.excluded
  included : spec.included ≠ [] → ∃ tag, spec.Carries tags tag ∧ tag ∈ spec.included

theorem keeps_eq_true_iff : spec.keeps tags = true ↔ spec.Selects tags := by
  have carries (tag : Text) :
      tag ∈ tags.map normalize ++ spec.featureTags ↔ spec.Carries tags tag :=
    List.mem_append
  simp only [keeps, Bool.and_eq_true, Bool.not_eq_true', List.any_eq_false, Bool.or_eq_true,
    List.any_eq_true, List.isEmpty_iff, decide_eq_true_eq, carries, or_iff_not_imp_left]
  constructor
  · rintro ⟨unexcluded, included⟩
    exact ⟨unexcluded, included⟩
  · rintro ⟨unexcluded, included⟩
    exact ⟨unexcluded, included⟩

instance (spec : TagSpec) (tags : List Text) : Decidable (spec.Selects tags) :=
  decidable_of_iff _ keeps_eq_true_iff

theorem filter_eq (spec : TagSpec) (scenarios : List Scenario) :
    spec.filter scenarios = scenarios.filter fun scenario => spec.Selects scenario.tags := by
  unfold filter
  congr 1
  funext scenario
  rw [Bool.eq_iff_iff, decide_eq_true_eq]
  exact keeps_eq_true_iff

/-- Selection goes by the tags that are carried. -/
theorem selects_congr {other : TagSpec} (included : spec.included = other.included)
    (excluded : spec.excluded = other.excluded)
    (carried : ∀ tag, spec.Carries tags tag ↔ other.Carries others tag) :
    spec.Selects tags ↔ other.Selects others := by
  constructor
  · rintro ⟨unexcluded, some⟩
    simp only [included, excluded, carried] at unexcluded some
    exact ⟨unexcluded, some⟩
  · rintro ⟨unexcluded, some⟩
    simp only [← included, ← excluded, ← carried] at unexcluded some
    exact ⟨unexcluded, some⟩

/-- Being bound to feature tags is the same as carrying them. -/
theorem selects_withFeatureTags_iff (spec : TagSpec) (tags featureTags : List Text) :
    (spec.withFeatureTags featureTags).Selects tags ↔
      spec.unbound.Selects (tags ++ featureTags) := by
  refine selects_congr rfl rfl fun tag => ?_
  simp [Carries, withFeatureTags, tagSet, unbound, TagSet.mem_ofList]

theorem SameTags.append {featureTags otherFeatureTags : List Text} (same : SameTags tags others)
    (sameFeature : SameTags featureTags otherFeatureTags) :
    SameTags (tags ++ featureTags) (others ++ otherFeatureTags) := by
  constructor
  · intro tag member
    rcases List.mem_append.mp member with own | ofFeature
    · obtain ⟨other, among, alike⟩ := same.1 tag own
      exact ⟨other, List.mem_append_left _ among, alike⟩
    · obtain ⟨other, among, alike⟩ := sameFeature.1 tag ofFeature
      exact ⟨other, List.mem_append_right _ among, alike⟩
  · intro other member
    rcases List.mem_append.mp member with own | ofFeature
    · obtain ⟨tag, among, alike⟩ := same.2 other own
      exact ⟨tag, List.mem_append_left _ among, alike⟩
    · obtain ⟨tag, among, alike⟩ := sameFeature.2 other ofFeature
      exact ⟨tag, List.mem_append_right _ among, alike⟩

theorem SameTags.selects_iff (same : SameTags tags others) (spec : TagSpec) :
    spec.Selects tags ↔ spec.Selects others :=
  selects_congr rfl rfl fun tag => or_congr_left (same.mem_normalized_iff tag)

theorem SameTags.withFeatureTags_eq (same : SameTags tags others) (spec : TagSpec) :
    spec.withFeatureTags tags = spec.withFeatureTags others :=
  congrArg (TagSpec.mk spec.included spec.excluded) (TagSet.ofList_congr same.mem_normalized_iff)

/-- Fewer tags pass a spec that excludes more. -/
theorem Selects.of_excluded_subset {wider : TagSet} (more : spec.excluded ⊆ wider)
    (selects : Selects { spec with excluded := wider } tags) : spec.Selects tags :=
  ⟨fun tag carries excluded => selects.unexcluded tag carries (more excluded), selects.included⟩

/-- More tags pass a spec that includes more, if it includes any. -/
theorem Selects.of_included_subset {wider : TagSet} (some : spec.included ≠ [])
    (more : spec.included ⊆ wider) (selects : spec.Selects tags) :
    Selects { spec with included := wider } tags := by
  obtain ⟨tag, carries, included⟩ := selects.included some
  exact ⟨selects.unexcluded, fun _ => ⟨tag, carries, more included⟩⟩

/-- A spec that selects more keeps more, in the same order. -/
theorem filter_sublist_of_selects {other : TagSpec}
    (more : ∀ tags, spec.Selects tags → other.Selects tags) (scenarios : List Scenario) :
    (spec.filter scenarios).Sublist (other.filter scenarios) := by
  rw [filter_eq, filter_eq]
  refine List.monotone_filter_right scenarios fun scenario selects => ?_
  exact decide_eq_true (more scenario.tags (of_decide_eq_true selects))

end TagSpec

/-- A run depends on what its selection leaves of the feature alone. -/
theorem Dispatcher.runFeature_congr_selection (dispatcher : Dispatcher) {feature : Feature}
    {selection other : Selection} (same : selection.apply feature = other.apply feature) :
    dispatcher.runFeature selection feature = dispatcher.runFeature other feature := by
  unfold runFeature
  rw [same]

/-- A run signals the features and rows that it is told to execute, up to where it ends. -/
theorem Dispatcher.exists_signals_runFeature (dispatcher : Dispatcher) (selection : Selection)
    (feature : Feature) (state : RunState) :
    ∃ (events : Journal) (rest : List Signal),
      ((dispatcher.runFeature selection feature).run state).2.observer.journal.events =
        state.observer.journal.events ++ events ∧
      feature.signals (selection.apply feature) =
        events.callbacks.map Callback.signal ++ rest ∧
      ∀ results, ((dispatcher.runFeature selection feature).run state).1 = .ok results →
        rest = [] := by
  obtain ⟨observer, grown, runs⟩ := dispatcher.exists_run_runFeature selection feature state
  rw [runs]
  refine ⟨(dispatcher.featurePassage selection feature state.standing).events, ?_⟩
  cases ending : (dispatcher.featureWalk selection feature state.standing).outcome with
  | ok results =>
      have whole := dispatcher.signals_featurePassage_of_ok ending
      exact ⟨[], grown, by rw [whole, List.append_nil], fun _ _ => rfl⟩
  | error abort =>
      obtain ⟨rest, -, parts, -⟩ := dispatcher.signals_featurePassage_of_error ending
      refine ⟨rest, grown, parts, fun results returns => ?_⟩
      have fails := dispatcher.outcome_featurePassage selection feature state.standing
      have clash : Except.ok results = Except.error abort := returns.symm.trans (fails.trans ending)
      cases clash

namespace TagSpec

/-- Selection by tags.  Filtering keeps exactly the selected scenarios, in their order.  A run with
a spec executes exactly those that the spec would select, if it were bound to no feature and every
scenario carried the tags of the feature beside its own.  Tags may be repeated, reordered and
respelled.  To exclude more never adds a scenario, and to include more never removes one, if any
tag was included before. -/
theorem filter_selectsByTags (spec : TagSpec) :
    (∀ scenarios, spec.filter scenarios =
      scenarios.filter fun scenario => spec.Selects scenario.tags) ∧
    (∀ (dispatcher : Dispatcher) (feature : Feature),
      let kept := feature.scenarios.filter fun scenario =>
        spec.unbound.Selects (scenario.tags ++ feature.tags)
      dispatcher.runFeature (.tagged spec) feature =
          dispatcher.runFeature (.chosen fun _ => kept) feature ∧
        ∀ state, ∃ (events : Journal) (rest : List Signal),
          ((dispatcher.runFeature (.tagged spec) feature).run state).2.observer.journal.events =
            state.observer.journal.events ++ events ∧
          feature.signals kept = events.callbacks.map Callback.signal ++ rest ∧
          ∀ results,
            ((dispatcher.runFeature (.tagged spec) feature).run state).1 = .ok results →
              rest = []) ∧
    (∀ tags others featureTags otherFeatureTags,
      SameTags tags others → SameTags featureTags otherFeatureTags →
        (spec.Selects tags ↔ spec.Selects others) ∧
        spec.withFeatureTags featureTags = spec.withFeatureTags otherFeatureTags ∧
        (spec.unbound.Selects (tags ++ featureTags) ↔
          spec.unbound.Selects (others ++ otherFeatureTags))) ∧
    (∀ wider, spec.excluded ⊆ wider → ∀ scenarios,
      (filter { spec with excluded := wider } scenarios).Sublist (spec.filter scenarios)) ∧
    (∀ wider, spec.included ≠ [] → spec.included ⊆ wider → ∀ scenarios,
      (spec.filter scenarios).Sublist (filter { spec with included := wider } scenarios)) := by
  refine ⟨spec.filter_eq, ?_, ?_, ?_, ?_⟩
  · intro dispatcher feature kept
    have applied : (Selection.tagged spec).apply feature = kept := by
      have bound : (Selection.tagged spec).apply feature =
          feature.scenarios.filter fun scenario =>
            (spec.withFeatureTags feature.tags).Selects scenario.tags :=
        filter_eq _ feature.scenarios
      simp only [bound, selects_withFeatureTags_iff, kept]
    refine ⟨dispatcher.runFeature_congr_selection applied, fun state => ?_⟩
    rw [← applied]
    exact dispatcher.exists_signals_runFeature (.tagged spec) feature state
  · intro tags others featureTags otherFeatureTags same sameFeature
    exact ⟨same.selects_iff spec, sameFeature.withFeatureTags_eq spec,
      (same.append sameFeature).selects_iff spec.unbound⟩
  · intro wider more scenarios
    exact filter_sublist_of_selects (fun _ => Selects.of_excluded_subset more) scenarios
  · intro wider some more scenarios
    exact filter_sublist_of_selects (fun _ => Selects.of_included_subset some more) scenarios

/-- A spec that was bound to an excluded tag, and a tag that is also written without its sign and
after a blank character.  Of two scenarios the one that carries this tag is run. -/
theorem filter_selectsByTags_respelled :
    let spec : TagSpec := ⟨["@a".toList], ["@x".toList], ["@x".toList]⟩
    let tags := ["@a".toList]
    let others := [" a".toList, "@a".toList]
    let included := ["@a".toList, "@x".toList]
    let scenario (own : List Text) : Scenario := ⟨[], [], [], false, own⟩
    let feature : Feature := ⟨[], [scenario others, scenario ["x".toList]], none, ["b".toList]⟩
    SameTags tags others ∧ spec.excluded ⊆ included ∧ spec.included ≠ [] ∧
      spec.included ⊆ included ∧
      (spec.Selects tags ↔ spec.Selects others) ∧
      spec.withFeatureTags tags = spec.withFeatureTags others ∧
      (filter { spec with excluded := included } feature.scenarios).Sublist
        (spec.filter feature.scenarios) ∧
      (spec.filter feature.scenarios).Sublist
        (filter { spec with included := included } feature.scenarios) ∧
      ∀ dispatcher : Dispatcher, dispatcher.runFeature (.tagged spec) feature =
        dispatcher.runFeature (.chosen fun _ => [scenario others]) feature := by
  intro spec tags others included scenario feature
  obtain ⟨-, runs, respelled, excluding, including⟩ := filter_selectsByTags spec
  have same : SameTags tags others := by
    simp only [SameTags, tags, others, List.forall_mem_cons, List.exists_mem_cons_iff,
      sameTag_iff]
    decide
  obtain ⟨selection, binding, -⟩ := respelled tags others tags others same same
  have excludesMore : spec.excluded ⊆ included := by decide
  have includesMore : spec.included ⊆ included := by decide
  have some : spec.included ≠ [] := by decide
  exact ⟨same, excludesMore, some, includesMore, selection, binding,
    excluding included excludesMore feature.scenarios,
    including included some includesMore feature.scenarios,
    fun dispatcher => (runs dispatcher feature).1⟩

end TagSpec

end FeatureRunner
