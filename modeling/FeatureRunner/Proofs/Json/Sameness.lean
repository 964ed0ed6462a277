import FeatureRunner.Number.Literal
import FeatureRunner.Value.Basic
import Mathlib.Data.List.Nodup

/-!
# Equality as JSON values

Two values are equal as JSON values if they differ at most in the order of the fields of their
records.  What a record without repeated keys tells about each key does not depend on that order.
-/

namespace FeatureRunner

/-- A value without doubles and moments, whose whole numbers can be written and whose records have
no key twice. -/
inductive Value.IsPlain : Value → Prop
  | null : IsPlain .null
  | bool (truth : Bool) : IsPlain (.bool truth)
  | int {number : Int} (writable : isWritable number = true) : IsPlain (.int number)
  | text (content : Text) : IsPlain (.text content)
  | list {items : List Value} (parts : ∀ item ∈ items, IsPlain item) : IsPlain (.list items)
  | record {fields : Record} (distinct : fields.keys.Nodup)
      (parts : ∀ field ∈ fields, IsPlain field.2) : IsPlain (.record fields)

/-- Equality as JSON values: lists are compared place by place, and records key by key. -/
inductive SameJson : Value → Value → Prop
  | leaf {value : Value} (undivided : value.isContainer = false) : SameJson value value
  | list {items others : List Value} (lengths : items.length = others.length)
      (parts : ∀ (place : Nat) (item other : Value),
        items[place]? = some item → others[place]? = some other → SameJson item other) :
      SameJson (.list items) (.list others)
  | record {fields others : Record} (keys : ∀ key, fields.has key = others.has key)
      (parts : ∀ (key : Text) (value other : Value),
        fields.get? key = some value → others.get? key = some other → SameJson value other) :
      SameJson (.record fields) (.record others)

namespace SameJson

variable {first second third : Value}

theorem symm (same : SameJson first second) : SameJson second first := by
  induction same with
  | leaf undivided => exact leaf undivided
  | list lengths parts ih =>
      exact list lengths.symm fun place item other here there => ih place other item there here
  | record keys parts ih =>
      refine record (fun key => (keys key).symm) fun key value other here there => ?_
      exact ih key other value there here

theorem trans (same : SameJson first second) (next : SameJson second third) :
    SameJson first third := by
  induction same generalizing third with
  | leaf undivided => exact next
  | @list items others lengths parts ih =>
      cases next with
      | leaf undivided => cases undivided
      | @list others lasts nextLengths nextParts =>
          refine list (lengths.trans nextLengths) fun place item last here there => ?_
          have inside : place < others.length := by
            have := (List.getElem?_eq_some_iff.mp here).1
            omega
          have between : others[place]? = some others[place] := List.getElem?_eq_getElem inside
          exact ih place item _ here between (nextParts place _ last between there)
  | @record fields others keys parts ih =>
      cases next with
      | leaf undivided => cases undivided
      | @record others lasts nextKeys nextParts =>
          refine record (fun key => (keys key).trans (nextKeys key)) ?_
          intro key value last here there
          have present : (others.get? key).isSome := by
            have := keys key
            simpa [Record.has, here] using this.symm
          obtain ⟨middle, between⟩ := Option.isSome_iff_exists.mp present
          exact ih key value middle here between (nextParts key middle last between there)

end SameJson

namespace Record

variable {fields others : Record} {key : Text} {value : Value}

/-- In a record without repeated keys, a key has the value that it is written with. -/
theorem get?_eq_some_iff (distinct : fields.keys.Nodup) :
    fields.get? key = some value ↔ (key, value) ∈ fields := by
  induction fields with
  | nil => simp [get?]
  | cons field rest ih =>
      obtain ⟨ownKey, own⟩ := field
      obtain ⟨fresh, distinctRest⟩ := List.nodup_cons.mp distinct
      unfold get?
      split
      · next same =>
        subst same
        have absent : (ownKey, value) ∉ rest := fun member =>
          fresh (List.mem_map.mpr ⟨_, member, rfl⟩)
        simp [absent, eq_comm]
      · next different =>
        rw [ih distinctRest]
        simp [Ne.symm different]

theorem get?_of_perm (distinct : fields.keys.Nodup) (reordered : fields.Perm others) (key : Text) :
    fields.get? key = others.get? key := by
  have distinctOthers : others.keys.Nodup := (reordered.map Prod.fst).nodup_iff.mp distinct
  refine Option.ext fun value => ?_
  rw [get?_eq_some_iff distinct, get?_eq_some_iff distinctOthers, reordered.mem_iff]

theorem get?_map (change : Value → Value) (fields : Record) (key : Text) :
    get? (fields.map (Prod.map id change)) key = (get? fields key).map change := by
  induction fields with
  | nil => rfl
  | cons field rest ih =>
      by_cases same : field.1 = key
      · simp [get?, same]
      · simpa [get?, same] using ih

theorem put_of_not_mem_keys (fresh : key ∉ fields.keys) (value : Value) :
    fields.put key value = fields ++ [(key, value)] := by
  induction fields with
  | nil => rfl
  | cons field rest ih =>
      obtain ⟨other, others⟩ := not_or.mp (List.mem_cons.not.mp fresh)
      simp only [put, Ne.symm other, if_false, ih others, List.cons_append]

/-- Entries of which no two have the same key are the record that they make. -/
theorem ofEntries_of_nodup (distinct : fields.keys.Nodup) : ofEntries fields = fields := by
  have puts (ahead entries : Record) (distinct : (ahead ++ entries).keys.Nodup) :
      entries.foldl (fun fields entry => fields.put entry.1 entry.2) ahead = ahead ++ entries := by
    induction entries generalizing ahead with
    | nil => simp
    | cons entry rest ih =>
        have fresh : entry.1 ∉ ahead.keys := by
          rw [keys, List.map_append, List.map_cons, List.nodup_middle] at distinct
          exact fun member => (List.nodup_cons.mp distinct).1 (List.mem_append_left _ member)
        rw [List.foldl_cons, put_of_not_mem_keys fresh, ih]
        · simp
        · simpa using distinct
  exact puts [] fields distinct

end Record

end FeatureRunner
