import FeatureRunner.Json.Writer
import FeatureRunner.Proofs.Json.Sameness

/-!
# Values with their fields in order

A text is written with the fields of every record in the order of their keys.  Arranging a value
puts them in this order.  Plain values are equal as JSON values exactly if they are arranged alike,
and the text of a value is the text of the arranged one.
-/

namespace FeatureRunner

namespace Json

section Sorting

variable {α β : Type} {fields others : List (Text × α)}

theorem insertField_perm (field : Text × α) (fields : List (Text × α)) :
    (insertField field fields).Perm (field :: fields) := by
  induction fields with
  | nil => exact .refl _
  | cons other rest ih =>
      unfold insertField
      split
      · exact (ih.cons other).trans (.swap field other rest)
      · exact .refl _

theorem sortFields_perm (fields : List (Text × α)) : (sortFields fields).Perm fields := by
  induction fields with
  | nil => exact .refl _
  | cons field rest ih => exact (insertField_perm field _).trans (ih.cons field)

/-- The keys of fields go up. -/
def Ascending (fields : List (Text × α)) : Prop :=
  fields.Pairwise fun field next => field.1 < next.1

theorem Ascending.insertField (ascending : Ascending fields) {field : Text × α}
    (fresh : field.1 ∉ fields.map Prod.fst) : Ascending (insertField field fields) := by
  induction fields with
  | nil => exact List.pairwise_singleton _ _
  | cons other rest ih =>
      obtain ⟨least, ascendingRest⟩ := List.pairwise_cons.mp ascending
      obtain ⟨different, freshRest⟩ := not_or.mp (List.mem_cons.not.mp fresh)
      unfold Json.insertField
      split
      · next before =>
        refine List.pairwise_cons.mpr ⟨fun next member => ?_, ih ascendingRest freshRest⟩
        rcases List.mem_cons.mp ((insertField_perm field rest).mem_iff.mp member) with rfl | later
        · exact before
        · exact least next later
      · next notBefore =>
        have smaller : field.1 < other.1 := by
          by_contra notSmaller
          exact different (List.le_antisymm (List.not_lt.mp notBefore) (List.not_lt.mp notSmaller))
        refine List.pairwise_cons.mpr ⟨fun next member => ?_, ascending⟩
        rcases List.mem_cons.mp member with rfl | later
        · exact smaller
        · exact List.lt_trans smaller (least next later)

theorem ascending_sortFields (distinct : (fields.map Prod.fst).Nodup) :
    Ascending (sortFields fields) := by
  induction fields with
  | nil => exact .nil
  | cons field rest ih =>
      obtain ⟨fresh, distinctRest⟩ := List.nodup_cons.mp distinct
      refine (ih distinctRest).insertField fun member => fresh ?_
      exact ((sortFields_perm rest).map Prod.fst).mem_iff.mp member

/-- Sorting forgets the order that fields came in. -/
theorem sortFields_congr (distinct : (fields.map Prod.fst).Nodup) (reordered : fields.Perm others) :
    sortFields fields = sortFields others := by
  have distinctOthers : (others.map Prod.fst).Nodup :=
    (reordered.map Prod.fst).nodup_iff.mp distinct
  have sorted : (sortFields fields).Perm (sortFields others) :=
    (sortFields_perm fields).trans (reordered.trans (sortFields_perm others).symm)
  refine sorted.eq_of_pairwise ?_ (ascending_sortFields distinct)
    (ascending_sortFields distinctOthers)
  intro field other _ _ before after
  exact absurd (List.lt_trans before after) (List.lt_irrefl _)

theorem keys_map (change : α → β) (fields : List (Text × α)) :
    (fields.map (Prod.map id change)).map Prod.fst = fields.map Prod.fst := by
  simp [Function.comp_def]

theorem insertField_map (change : α → β) (field : Text × α) (fields : List (Text × α)) :
    insertField (field.map id change) (fields.map (Prod.map id change)) =
      (insertField field fields).map (Prod.map id change) := by
  induction fields with
  | nil => rfl
  | cons other rest ih =>
      by_cases before : other.1 < field.1
      · simp [insertField, before, ih]
      · simp [insertField, before]

theorem sortFields_map (change : α → β) (fields : List (Text × α)) :
    sortFields (fields.map (Prod.map id change)) =
      (sortFields fields).map (Prod.map id change) := by
  induction fields with
  | nil => rfl
  | cons field rest ih =>
      simp only [sortFields, List.map_cons, List.foldr_cons] at ih ⊢
      rw [ih, insertField_map]

end Sorting

mutual

/-- The value with the fields of all its records in the order of their keys. -/
def arranged : Value → Value
  | .list items => .list (arrangedItems items)
  | .record fields => .record (sortFields (arrangedFields fields))
  | value => value

def arrangedItems : List Value → List Value
  | [] => []
  | item :: rest => arranged item :: arrangedItems rest

/-- The fields of a record with their values arranged, in their own order. -/
def arrangedFields : List (Text × Value) → List (Text × Value)
  | [] => []
  | (key, value) :: rest => (key, arranged value) :: arrangedFields rest

end

theorem arrangedItems_eq (items : List Value) : arrangedItems items = items.map arranged := by
  induction items with
  | nil => rfl
  | cons item rest ih => rw [arrangedItems, ih, List.map_cons]

theorem arrangedFields_eq (fields : Record) :
    arrangedFields fields = fields.map (Prod.map id arranged) := by
  induction fields with
  | nil => rfl
  | cons field rest ih => rw [arrangedFields, ih, List.map_cons]; rfl

theorem writeItems_eq (level : Nat) (items : List Value) :
    writeItems level items = items.map (writeAt level) := by
  induction items with
  | nil => rfl
  | cons item rest ih => rw [writeItems, ih, List.map_cons]

theorem writeFields_eq (level : Nat) (fields : Record) :
    writeFields level fields = fields.map (Prod.map id (writeAt level)) := by
  induction fields with
  | nil => rfl
  | cons field rest ih => rw [writeFields, ih, List.map_cons]; rfl

variable {value other : Value}

/-- The fields of an arranged record hold the arranged values. -/
theorem get?_arranged {fields : Record} (distinct : fields.keys.Nodup) (key : Text) :
    Record.get? (sortFields (arrangedFields fields)) key =
      (fields.get? key).map arranged := by
  rw [arrangedFields_eq, ← Record.get?_map]
  refine (Record.get?_of_perm ?_ (sortFields_perm _).symm key).symm
  rwa [Record.keys, keys_map]

theorem sameJson_arranged (plain : value.IsPlain) : SameJson value (arranged value) := by
  induction plain with
  | null | bool | int | text => exact .leaf rfl
  | @list items parts ih =>
      rw [arranged, arrangedItems_eq]
      refine .list (List.length_map _).symm fun place item other here there => ?_
      rw [List.getElem?_map, here, Option.map_some, Option.some_inj] at there
      exact there ▸ ih item (List.mem_of_getElem? here)
  | @record fields distinct parts ih =>
      refine .record (fun key => ?_) fun key value other here there => ?_
      · simp [Record.has, get?_arranged distinct]
      · rw [get?_arranged distinct, here, Option.map_some, Option.some_inj] at there
        exact there ▸ ih _ ((Record.get?_eq_some_iff distinct).mp here)

theorem arranged_eq_of_sameJson (plain : value.IsPlain) (otherPlain : other.IsPlain)
    (same : SameJson value other) : arranged value = arranged other := by
  induction same with
  | leaf => rfl
  | list lengths parts ih =>
      cases plain with
      | list plainItems =>
      cases otherPlain with
      | list plainOthers =>
      rw [arranged, arranged, arrangedItems_eq, arrangedItems_eq]
      refine congrArg Value.list (List.ext_getElem (by simpa using lengths) ?_)
      intro place here there
      rw [List.length_map] at here there
      rw [List.getElem_map, List.getElem_map]
      exact ih place _ _ (List.getElem?_eq_getElem here) (List.getElem?_eq_getElem there)
        (plainItems _ (List.getElem_mem here)) (plainOthers _ (List.getElem_mem there))
  | @record fields others keys parts ih =>
      cases plain with
      | record distinct plainFields =>
      cases otherPlain with
      | record othersDistinct plainOthers =>
      rw [arranged, arranged, arrangedFields_eq, arrangedFields_eq]
      have sameValue (key : Text) :
          (fields.get? key).map arranged = (others.get? key).map arranged := by
        have present := keys key
        cases here : fields.get? key with
        | none => cases there : others.get? key <;> simp_all [Record.has]
        | some value =>
            cases there : others.get? key with
            | none => simp [Record.has, here, there] at present
            | some other =>
                have inFields := (Record.get?_eq_some_iff distinct).mp here
                have inOthers := (Record.get?_eq_some_iff othersDistinct).mp there
                exact congrArg some
                  (ih key _ _ here there (plainFields _ inFields) (plainOthers _ inOthers))
      have arrangedDistinct : ((fields.map (Prod.map id arranged)).map Prod.fst).Nodup := by
        rwa [keys_map]
      have arrangedOthersDistinct : ((others.map (Prod.map id arranged)).map Prod.fst).Nodup := by
        rwa [keys_map]
      refine congrArg Value.record (sortFields_congr arrangedDistinct ?_)
      refine (List.perm_ext_iff_of_nodup arrangedDistinct.of_map
        arrangedOthersDistinct.of_map).mpr fun field => ?_
      obtain ⟨key, value⟩ := field
      rw [← Record.get?_eq_some_iff arrangedDistinct,
        ← Record.get?_eq_some_iff arrangedOthersDistinct, Record.get?_map, Record.get?_map,
        sameValue]

theorem sameJson_iff (plain : value.IsPlain) (otherPlain : other.IsPlain) :
    SameJson value other ↔ arranged value = arranged other := by
  refine ⟨arranged_eq_of_sameJson plain otherPlain, fun same => ?_⟩
  have back := (sameJson_arranged otherPlain).symm
  exact (same ▸ sameJson_arranged plain).trans back

/-- The text of a value is the text of the arranged value. -/
theorem writeAt_arranged (plain : value.IsPlain) (level : Nat) :
    writeAt level (arranged value) = writeAt level value := by
  induction plain generalizing level with
  | null | bool | int | text => rfl
  | @list items parts ih =>
      have same : (items.map arranged).map (writeAt (level + 1)) =
          items.map (writeAt (level + 1)) := by
        rw [List.map_map]
        exact List.map_congr_left fun item member => ih item member (level + 1)
      rw [arranged, arrangedItems_eq, writeAt, writeAt, writeItems_eq, writeItems_eq, same]
  | @record fields distinct parts ih =>
      have same : (fields.map (Prod.map id arranged)).map (Prod.map id (writeAt (level + 1))) =
          fields.map (Prod.map id (writeAt (level + 1))) := by
        rw [List.map_map]
        refine List.map_congr_left fun field member => ?_
        exact congrArg (Prod.mk field.1) (ih field member (level + 1))
      have sorted := sortFields_perm (fields.map (Prod.map id (writeAt (level + 1))))
      rw [arranged, arrangedFields_eq, writeAt, writeAt, writeFields_eq, writeFields_eq,
        ← sortFields_map, same, sortFields_congr _ sorted]
      rwa [(sorted.map Prod.fst).nodup_iff, keys_map]

end Json

end FeatureRunner
