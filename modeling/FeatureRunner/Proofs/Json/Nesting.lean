import FeatureRunner.Proofs.Json.Arrangement
import FeatureRunner.Proofs.Json.Parts

/-!
# Reading written values back

A written value is read as the value with its fields in order if there is room for all its lists
and records, and is refused as too deep otherwise.
-/

namespace FeatureRunner

namespace Json

variable {α β : Type} {room : Nat}

/-- What is read of the text of a value: the arranged value, if there is room for it. -/
def arranged? (room : Nat) (value : Value) : Option Value :=
  if value.nesting ≤ room then some (arranged value) else none

theorem mapM_guarded {guard : α → Prop} [DecidablePred guard] (value : α → β) (parts : List α) :
    (parts.mapM fun part => if guard part then some (value part) else none) =
      if ∀ part ∈ parts, guard part then some (parts.map value) else none := by
  induction parts with
  | nil => simp
  | cons part rest ih =>
      rw [List.mapM_cons, ih]
      by_cases here : guard part
      · by_cases there : ∀ part ∈ rest, guard part
        · rw [if_pos here, if_pos there, if_pos (List.forall_mem_cons.mpr ⟨here, there⟩)]
          rfl
        · rw [if_pos here, if_neg there, if_neg fun all => there (List.forall_mem_cons.mp all).2]
          rfl
      · rw [if_neg here, if_neg fun all => here (List.forall_mem_cons.mp all).1]
        rfl

theorem mapM_arranged? (room : Nat) (items : List Value) :
    items.mapM (arranged? room) =
      if Value.itemNesting items ≤ room then some (arrangedItems items) else none := by
  rw [arrangedItems_eq]
  exact (mapM_guarded arranged items).trans (if_congr Value.itemNesting_le_iff.symm rfl rfl)

theorem mapM_fields_arranged? (room : Nat) (fields : Record) :
    (fields.mapM fun field => (arranged? room field.2).map (Prod.mk field.1)) =
      if Value.fieldNesting fields ≤ room then some (arrangedFields fields) else none := by
  have guarded (field : Text × Value) : (arranged? room field.2).map (Prod.mk field.1) =
      if field.2.nesting ≤ room then some (field.map id arranged) else none := by
    rw [arranged?]
    split <;> rfl
  simp only [guarded, arrangedFields_eq]
  exact (mapM_guarded (Prod.map id arranged) fields).trans
    (if_congr Value.fieldNesting_le_iff.symm rfl rfl)

theorem arranged?_list (room : Nat) (items : List Value) :
    arranged? (room + 1) (.list items) = (items.mapM (arranged? room)).map .list := by
  rw [mapM_arranged?, arranged?, Value.nesting, arranged]
  simp only [Nat.add_le_add_iff_right]
  split <;> rfl

theorem arranged?_record {fields : Record} (distinct : fields.keys.Nodup) (room : Nat) :
    arranged? (room + 1) (.record fields) =
      ((sortFields fields).mapM fun field => (arranged? room field.2).map (Prod.mk field.1)).map
        fun entries => .record (Record.ofEntries entries) := by
  have sameNesting : Value.fieldNesting (sortFields fields) ≤ room ↔
      Value.fieldNesting fields ≤ room := by
    simp only [Value.fieldNesting_le_iff, (sortFields_perm fields).mem_iff]
  have sameFields : Record.ofEntries (arrangedFields (sortFields fields)) =
      sortFields (arrangedFields fields) := by
    rw [arrangedFields_eq, arrangedFields_eq, sortFields_map]
    refine Record.ofEntries_of_nodup ?_
    rwa [Record.keys, keys_map, ((sortFields_perm fields).map Prod.fst).nodup_iff]
  rw [mapM_fields_arranged?, arranged?, Value.nesting, arranged, ← sameFields]
  simp only [Nat.add_le_add_iff_right, sameNesting]
  split <;> rfl

variable {value : Value}

/-- A written value is read as the arranged value, if there is room for it. -/
theorem readAs_writeAt (plain : value.IsPlain) (room level : Nat) :
    ReadAs room (writeAt level value) (arranged? room value) := by
  induction plain generalizing room level with
  | null => exact readAs_null
  | bool truth => exact readAs_bool truth level
  | int writable => exact readAs_int writable
  | text content => exact readAs_string content
  | @list items parts ih =>
      rw [writeAt, writeItems_eq]
      cases room with
      | zero =>
          exact readAs_bracketed_zero (fun _ => ⟨_, _, rfl, rfl, by decide, by decide⟩)
            (fun _ _ => rfl) level _
      | succ room =>
          rw [arranged?_list]
          exact readAs_list (fun item member => ih item member room (level + 1)) level
  | @record fields distinct parts ih =>
      rw [writeAt, writeFields_eq, sortFields_map, List.map_map]
      cases room with
      | zero =>
          exact readAs_bracketed_zero (fun _ => ⟨_, _, rfl, rfl, by decide, by decide⟩)
            (fun _ _ => rfl) level _
      | succ room =>
          rw [arranged?_record distinct]
          refine readAs_record (fun field member => ?_) level
          exact ih field ((sortFields_perm fields).mem_iff.mp member) room (level + 1)

end Json

end FeatureRunner
