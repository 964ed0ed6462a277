import FeatureRunner.Proofs.Text.Numerals
import FeatureRunner.Proofs.Text.Parts
import FeatureRunner.Proofs.Value.FaultPlaces

/-!
# Locations

The place of a fault is told by a text: names and positions between slashes, or a word for the
value itself.  In general such a text could be read in several ways, since the names in a value may
hold anything.

This file proves that it can be read in one way only if the records on the way allow no names but
those of their shapes, and these names have no slashes and are not the word for the value itself.
-/

namespace FeatureRunner

/-- The text that stands for a value itself, and not for one of its parts. -/
def rootWord : Text := "<root>".toList

/-- A location tells a path: its word tells the way that does not go in at all, and any other text
tells the ways that lead in by the steps it joins. -/
def ValuePath.ToldBy (location : Text) (path : ValuePath) : Prop :=
  if location = rootWord then path = []
  else path ≠ [] ∧ location = Text.join ['/'] (path.map PathStep.toText)

theorem Record.mem_keys_of_get? {fields : Record} {name : Text} {value : Value}
    (has : fields.get? name = some value) : name ∈ fields.keys := by
  induction fields with
  | nil => cases has
  | cons field rest ih =>
      unfold get? at has
      split at has
      · next same => simp [keys, same]
      · exact List.mem_cons_of_mem _ (ih has)

namespace Shape

/-- All records of a shape that have shapes for fields are closed, and the names of these fields
have no slashes and are not the word for the value itself. -/
inductive HasClearNames : Shape → Prop
  | anything : HasClearNames anything
  | text {nonEmpty : Bool} : HasClearNames (text nonEmpty)
  | integer : HasClearNames integer
  | list {item : Shape} (each : HasClearNames item) : HasClearNames (list item)
  | record {required : List Text} {fields : List (Text × Shape)} {closed : Bool}
      (others : fields ≠ [] → closed = true)
      (clear : ∀ field ∈ fields, '/' ∉ field.1 ∧ field.1 ≠ rootWord)
      (each : ∀ field ∈ fields, HasClearNames field.2) :
      HasClearNames (record required fields closed)

variable {shape inner : Shape} {value part : Value} {path other : ValuePath}

/-- No part on the way to the end of a path breaks a shape that governs it. -/
def SoundUpTo (shape : Shape) (value : Value) (path : ValuePath) : Prop :=
  ∀ front step rest, path = front ++ step :: rest → ∀ between passed,
    shape.Governs front between → value.at? front = some passed → ¬ between.Breaks passed

theorem keysAmong_of_not_breaks {required : List Text} {fields : List (Text × Shape)}
    {values : Record} (sound : ¬ (record required fields true).Breaks (.record values)) :
    values.KeysAmong (fields.map Prod.fst) := by
  rw [breaks_record_iff, not_not] at sound
  obtain ⟨_, ⟨⟩, -, known⟩ := sound
  exact known rfl

/-- The first step of a governed path is told without slashes, and by another word than the value
itself. -/
theorem HasClearNames.toText_step (clear : shape.HasClearNames) {step : PathStep}
    {rest : ValuePath} (governs : shape.Governs (step :: rest) inner) :
    '/' ∉ step.toText ∧ step.toText ≠ rootWord := by
  cases governs with
  | item position governs =>
      refine ⟨Text.not_mem_ofNat (by decide) position, fun same => ?_⟩
      have inside : '<' ∈ Text.ofNat position := by
        rw [show Text.ofNat position = rootWord from same]
        decide
      exact Text.not_mem_ofNat (by decide) position inside
  | field named governs =>
      cases clear with
      | record others clear each => exact clear _ named

theorem SoundUpTo.tail {step : PathStep} {rest : ValuePath} {first : Shape}
    (sound : shape.SoundUpTo value (step :: rest))
    (governs : ∀ {path inner}, first.Governs path inner → shape.Governs (step :: path) inner)
    (leads : ∀ path, value.at? (step :: path) = part.at? path) : first.SoundUpTo part rest := by
  rintro front next later rfl between passed inside at_
  exact sound (step :: front) next later rfl between passed (governs inside)
    ((leads front).trans at_)

/-- If a governed path leads to a part, and nothing on its way breaks its shape, no other path to a
part has the same text. -/
theorem HasClearNames.eq_of_join_eq (clear : shape.HasClearNames)
    (governs : shape.Governs path inner) (leads : value.at? path = some part)
    (sound : shape.SoundUpTo value path) {otherPart : Value}
    (otherLeads : value.at? other = some otherPart) (both : path = [] ↔ other = [])
    (same : Text.join ['/'] (path.map PathStep.toText) =
      Text.join ['/'] (other.map PathStep.toText)) : path = other := by
  induction governs generalizing value other with
  | here shape => exact (both.mp rfl).symm
  | @item item inner rest position governs ih =>
      rcases clear with _ | _ | _ | each | _
      have notNil : other ≠ [] := mt both.mpr (List.cons_ne_nil _ _)
      obtain ⟨step, others, rfl⟩ := List.exists_cons_of_ne_nil notNil
      rw [Value.at?_index, Option.bind_eq_some_iff] at leads
      obtain ⟨first, at_, leads⟩ := leads
      cases value with
      | list items =>
          cases step with
          | key name =>
              rw [Value.at?_key] at otherLeads
              cases otherLeads
          | index otherPosition =>
              rw [Value.at?_index, Option.bind_eq_some_iff] at otherLeads
              obtain ⟨second, otherAt, otherLeads⟩ := otherLeads
              obtain ⟨numerals, ends, sameRest⟩ := Text.join_cons_inj
                (Text.not_mem_ofNat (by decide) position)
                (Text.not_mem_ofNat (by decide) otherPosition) same
              obtain rfl := Text.ofNat_inj.mp numerals
              obtain rfl := Option.some_inj.mp (at_.symm.trans otherAt)
              have further : item.SoundUpTo first rest := by
                refine sound.tail (.item position) fun path => ?_
                rw [Value.at?_index, at_]
                rfl
              rw [ih each leads further otherLeads (by simpa using ends) sameRest]
      | _ => cases at_
  | @field required fields closed name shape inner rest named governs ih =>
      rcases clear with _ | _ | _ | _ | ⟨isClosed, clear, each⟩
      have notNil : other ≠ [] := mt both.mpr (List.cons_ne_nil _ _)
      obtain ⟨step, others, rfl⟩ := List.exists_cons_of_ne_nil notNil
      rw [Value.at?_key, Option.bind_eq_some_iff] at leads
      obtain ⟨first, has, leads⟩ := leads
      cases value with
      | record values =>
          cases step with
          | index position =>
              rw [Value.at?_index] at otherLeads
              cases otherLeads
          | key otherName =>
              rw [Value.at?_key, Option.bind_eq_some_iff] at otherLeads
              obtain ⟨second, otherHas, otherLeads⟩ := otherLeads
              -- The record is sound and closed, so the other name is one of the shape too.
              obtain rfl := isClosed (List.ne_nil_of_mem named)
              have whole := sound [] _ _ rfl _ _ (.here _) (Value.at?_nil _)
              have known := keysAmong_of_not_breaks whole otherName
                (Record.mem_keys_of_get? otherHas)
              obtain ⟨otherField, among, rfl⟩ := List.mem_map.mp known
              obtain ⟨rfl, ends, sameRest⟩ := Text.join_cons_inj
                (clear _ named).1 (clear _ among).1 same
              obtain rfl := Option.some_inj.mp (has.symm.trans otherHas)
              have further : shape.SoundUpTo first rest := by
                refine sound.tail (.field named) fun path => ?_
                rw [Value.at?_key, has]
                rfl
              rw [ih (each _ named) leads further otherLeads (by simpa using ends) sameRest]
      | _ => cases has

/-- The text of a governed path tells it. -/
theorem HasClearNames.toldBy_toText (clear : shape.HasClearNames)
    (governs : shape.Governs path inner) : path.ToldBy path.toText := by
  cases path with
  | nil => rfl
  | cons step rest =>
      obtain ⟨whole, notRoot⟩ := clear.toText_step governs
      have joined : ValuePath.toText (step :: rest) =
          Text.join ['/'] ((step :: rest).map PathStep.toText) := rfl
      rw [ValuePath.ToldBy, if_neg]
      · exact ⟨List.cons_ne_nil _ _, joined⟩
      · intro root
        -- The word for the value itself has no slashes, so it would be the first step alone.
        have single : Text.join ['/'] ((step :: rest).map PathStep.toText) =
            Text.join ['/'] [rootWord] := joined.symm.trans root
        exact notRoot (Text.join_cons_inj whole (by decide) single).1

/-- The location of a governed path tells no other path to a part, if nothing on its way breaks its
shape. -/
theorem HasClearNames.eq_of_toldBy (clear : shape.HasClearNames)
    (governs : shape.Governs path inner) (leads : value.at? path = some part)
    (sound : shape.SoundUpTo value path) {otherPart : Value}
    (otherLeads : value.at? other = some otherPart) (told : other.ToldBy path.toText) :
    other = path := by
  have own := clear.toldBy_toText governs
  unfold ValuePath.ToldBy at own told
  split at own
  · next root =>
    rw [if_pos root] at told
    rw [own, told]
  · next inside =>
    rw [if_neg inside] at told
    have both : path = [] ↔ other = [] := iff_of_false own.1 told.1
    exact (clear.eq_of_join_eq governs leads sound otherLeads both (own.2.symm.trans told.2)).symm

end Shape

end FeatureRunner
