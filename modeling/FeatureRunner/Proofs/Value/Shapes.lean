import FeatureRunner.Proofs.Number.Whole
import FeatureRunner.Value.Shape

/-!
# What shapes admit

Checking a value against a shape looks for faults.  What a shape admits can be said without
looking for them, kind by kind.  A value passes the check exactly if its shape admits it.
-/

namespace FeatureRunner

/-- A whole number: an integer, or a double that equals one.  Truth values are none. -/
def Value.IsWhole (value : Value) : Prop :=
  (∃ number, value = .int number) ∨
    ∃ (number : Double) (n : Int), value = .float number ∧ number.toRat? = some (n : ℚ)

/-- A record holds no keys but the given ones. -/
def Record.KeysAmong (fields : Record) (known : List Text) : Prop :=
  ∀ key ∈ fields.keys, key ∈ known

theorem Record.has_eq_true_iff {fields : Record} {key : Text} :
    fields.has key = true ↔ ∃ value, fields.get? key = some value :=
  Option.isSome_iff_exists

namespace Shape

/-- The values that a shape admits. -/
inductive Admits : Shape → Value → Prop
  | anything {value : Value} : Admits anything value
  | text {nonEmpty : Bool} {content : Text} (filled : nonEmpty = true → content ≠ []) :
      Admits (text nonEmpty) (.text content)
  | integer {value : Value} (whole : value.IsWhole) : Admits integer value
  | list {item : Shape} {items : List Value} (each : ∀ value ∈ items, Admits item value) :
      Admits (list item) (.list items)
  | record {required : List Text} {fields : List (Text × Shape)} {closed : Bool}
      {values : Record} (present : ∀ key ∈ required, ∃ value, values.get? key = some value)
      (each : ∀ field ∈ fields, ∀ value, values.get? field.1 = some value → Admits field.2 value)
      (others : closed = true → values.KeysAmong (fields.map Prod.fst)) :
      Admits (record required fields closed) (.record values)

theorem admits_text_iff {nonEmpty : Bool} {value : Value} :
    (text nonEmpty).Admits value ↔
      ∃ content, value = .text content ∧ (nonEmpty = true → content ≠ []) := by
  constructor
  · intro admits
    cases admits with
    | text filled => exact ⟨_, rfl, filled⟩
  · rintro ⟨content, rfl, filled⟩
    exact .text filled

theorem admits_integer_iff {value : Value} : integer.Admits value ↔ value.IsWhole :=
  ⟨fun | .integer whole => whole, .integer⟩

theorem admits_list_iff {item : Shape} {value : Value} :
    (list item).Admits value ↔ ∃ items, value = .list items ∧ ∀ part ∈ items, item.Admits part := by
  constructor
  · intro admits
    cases admits with
    | list each => exact ⟨_, rfl, each⟩
  · rintro ⟨items, rfl, each⟩
    exact .list each

theorem admits_record_iff {required : List Text} {fields : List (Text × Shape)} {closed : Bool}
    {value : Value} :
    (record required fields closed).Admits value ↔
      ∃ values : Record, value = .record values ∧
        (∀ key ∈ required, ∃ part, values.get? key = some part) ∧
        (∀ field ∈ fields, ∀ part, values.get? field.1 = some part → field.2.Admits part) ∧
        (closed = true → values.KeysAmong (fields.map Prod.fst)) := by
  constructor
  · intro admits
    cases admits with
    | record present each others => exact ⟨_, rfl, present, each, others⟩
  · rintro ⟨values, rfl, present, each, others⟩
    exact .record present each others

theorem text_flaws_eq_nil_iff {nonEmpty : Bool} {value : Value} :
    (text nonEmpty).flaws value = [] ↔
      ∃ content, value = .text content ∧ (nonEmpty = true → content ≠ []) := by
  cases value with
  | text content => simp [flaws]
  | _ => simp [flaws]

theorem integer_flaws_eq_nil_iff {value : Value} :
    integer.flaws value = [] ↔ value.IsWhole := by
  cases value with
  | int number => simp [flaws, Value.IsWhole]
  | float number =>
      simp only [flaws, Value.IsWhole, reduceCtorEq, exists_false, false_or, Value.float.injEq,
        ite_eq_left_iff, List.cons_ne_nil, imp_false, not_not, Option.isSome_iff_exists,
        Double.toInt?_eq_some_iff]
      simp
  | _ => simp [flaws, Value.IsWhole]

theorem recordFlaws_eq_nil_iff {required known : List Text} {closed : Bool} {fields : Record} :
    recordFlaws required known closed fields = [] ↔
      (∀ key ∈ required, ∃ value, fields.get? key = some value) ∧
        (closed = true → fields.KeysAmong known) := by
  unfold recordFlaws
  rw [List.append_eq_nil_iff, List.map_eq_nil_iff, List.filter_eq_nil_iff]
  simp only [Bool.not_eq_true', Bool.not_eq_false, Record.has_eq_true_iff]
  cases closed with
  | false => simp
  | true => simp [Record.KeysAmong]

mutual

/-- A value has no faults for a shape exactly if the shape admits it. -/
theorem faults_eq_nil_iff : ∀ (shape : Shape) (value : Value),
    shape.faults value = [] ↔ shape.Admits value
  | anything, value => ⟨fun _ => .anything, fun _ => rfl⟩
  | text nonEmpty, value => by
      rw [faults, List.map_eq_nil_iff, text_flaws_eq_nil_iff, admits_text_iff]
  | integer, value => by
      rw [faults, List.map_eq_nil_iff, integer_flaws_eq_nil_iff, admits_integer_iff]
  | list item, value => by
      rw [faults, List.append_eq_nil_iff, List.map_eq_nil_iff, List.flatMap_eq_nil_iff,
        admits_list_iff]
      -- Items are checked with their positions, which only the place of a fault depends on.
      constructor
      · rintro ⟨own, parts⟩
        cases value with
        | list items =>
            refine ⟨items, rfl, fun value among => ?_⟩
            obtain ⟨position, at_⟩ := List.mem_iff_getElem?.mp among
            have none := parts (value, position) (List.mk_mem_zipIdx_iff_getElem?.mpr at_)
            exact (faults_eq_nil_iff item value).mp (List.map_eq_nil_iff.mp none)
        | _ => cases own
      · rintro ⟨items, rfl, each⟩
        refine ⟨rfl, fun entry among => List.map_eq_nil_iff.mpr ?_⟩
        have inside := List.fst_mem_of_mem_zipIdx among
        exact (faults_eq_nil_iff item entry.1).mpr (each entry.1 inside)
  | record required fields closed, value => by
      rw [faults, List.append_eq_nil_iff, List.map_eq_nil_iff, fieldFaults_eq_nil_iff fields,
        admits_record_iff]
      constructor
      · rintro ⟨own, parts⟩
        cases value with
        | record values =>
            obtain ⟨present, others⟩ := recordFlaws_eq_nil_iff.mp own
            exact ⟨values, rfl, present, parts, others⟩
        | _ => cases own
      · rintro ⟨values, rfl, present, each, others⟩
        exact ⟨recordFlaws_eq_nil_iff.mpr ⟨present, others⟩, each⟩

theorem fieldFaults_eq_nil_iff : ∀ (fields : List (Text × Shape)) (values : Record),
    fieldFaults fields values = [] ↔
      ∀ field ∈ fields, ∀ value, values.get? field.1 = some value → field.2.Admits value
  | [], values => by simp [fieldFaults]
  | (key, shape) :: rest, values => by
      rw [fieldFaults, List.append_eq_nil_iff, fieldFaults_eq_nil_iff rest, List.forall_mem_cons]
      apply and_congr_left
      intro _
      cases values.get? key with
      | none => simp
      | some value => simp [faults_eq_nil_iff shape value]

end

theorem outermost?_eq_none_iff {found : List ShapeFault} :
    ShapeFault.outermost? found = none ↔ found = [] := by
  cases found with
  | nil => exact ⟨fun _ => rfl, fun _ => rfl⟩
  | cons fault others =>
      unfold ShapeFault.outermost?
      split
      · simp
      · split <;> simp

/-- A value passes the check exactly if its shape admits it. -/
theorem check_eq_ok_iff {shape : Shape} {value : Value} :
    shape.check value = .ok () ↔ shape.Admits value := by
  rw [← faults_eq_nil_iff, ← outermost?_eq_none_iff, check]
  split
  · next fault found => simp [found]
  · next none => simp [none]

end Shape

end FeatureRunner
