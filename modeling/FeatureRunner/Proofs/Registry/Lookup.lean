import FeatureRunner.Registry

/-!
# Looking up step definitions

Whatever the lookup of a step finds was registered: it is a definition in one of the buckets, and
its action is that of an entry.
-/

namespace FeatureRunner.Registry

theorem mem_of_firstMatch {text : Text} {definitions : List StepDefinition}
    {definition : StepDefinition} {found : PatternMatch}
    (first : firstMatch text definitions = some (definition, found)) :
    definition ∈ definitions := by
  induction definitions with
  | nil => cases first
  | cons head rest ih =>
      unfold firstMatch at first
      split at first
      · cases first
        exact List.mem_cons_self
      · exact List.mem_cons_of_mem _ (ih first)

theorem exists_bucket_of_mem {buckets : List (Text × List StepDefinition)} {verb : Text}
    {definition : StepDefinition} (member : definition ∈ bucket buckets verb) :
    ∃ among ∈ buckets, definition ∈ among.2 := by
  induction buckets with
  | nil => cases member
  | cons head rest ih =>
      unfold bucket at member
      split at member
      · exact ⟨head, List.mem_cons_self, member⟩
      · obtain ⟨among, within, has⟩ := ih member
        exact ⟨among, List.mem_cons_of_mem _ within, has⟩

/-- A definition that is found for a step is in one of the buckets. -/
theorem exists_bucket_of_find {registry : Registry} {verb text : Text}
    {definition : StepDefinition} {found : PatternMatch}
    (sought : registry.find verb text = some (definition, found)) :
    ∃ among ∈ registry.buckets, definition ∈ among.2 := by
  rcases List.mem_append.mp (mem_of_firstMatch sought) with own | wild
  · exact exists_bucket_of_mem own
  · split at wild
    · cases wild
    · exact exists_bucket_of_mem wild

/-- A bucket gets no other definition than the inserted one. -/
theorem eq_or_exists_of_mem_insert {inserted definition : StepDefinition}
    {buckets : List (Text × List StepDefinition)} {among : Text × List StepDefinition}
    (within : among ∈ insert inserted buckets) (member : definition ∈ among.2) :
    definition = inserted ∨ ∃ earlier ∈ buckets, definition ∈ earlier.2 := by
  induction buckets with
  | nil =>
      rw [insert, List.mem_singleton] at within
      subst within
      exact .inl (List.mem_singleton.mp member)
  | cons first rest ih =>
      unfold insert at within
      split at within
      · rcases List.mem_cons.mp within with rfl | later
        · rcases List.mem_append.mp member with old | new
          · exact .inr ⟨first, List.mem_cons_self, old⟩
          · exact .inl (List.mem_singleton.mp new)
        · exact .inr ⟨among, List.mem_cons_of_mem _ later, member⟩
      · rcases List.mem_cons.mp within with rfl | later
        · exact .inr ⟨_, List.mem_cons_self, member⟩
        · rcases ih later with same | ⟨earlier, old, has⟩
          · exact .inl same
          · exact .inr ⟨earlier, List.mem_cons_of_mem _ old, has⟩

/-- After entries were added, the action of every definition is that of an entry, unless the
definition was there before. -/
theorem handler_of_mem_addAll {registry : Registry} {entries : List StepEntry}
    {definition : StepDefinition} {among : Text × List StepDefinition}
    (within : among ∈ (registry.addAll entries).1.buckets) (member : definition ∈ among.2) :
    (∃ earlier ∈ registry.buckets, definition ∈ earlier.2) ∨
      ∃ entry ∈ entries, entry.handler = .action definition.action := by
  induction entries generalizing registry with
  | nil => exact .inl ⟨among, within, member⟩
  | cons entry rest ih =>
      unfold addAll add define at within
      cases handles : entry.handler with
      | other value =>
          rw [handles] at within
          exact .inl ⟨among, within, member⟩
      | action action =>
          rw [handles] at within
          rcases ih within with ⟨earlier, old, has⟩ | ⟨later, isRest, callable⟩
          · rcases eq_or_exists_of_mem_insert old has with rfl | before
            · exact .inr ⟨entry, List.mem_cons_self, handles⟩
            · exact .inl before
          · exact .inr ⟨later, List.mem_cons_of_mem _ isRest, callable⟩

end FeatureRunner.Registry
