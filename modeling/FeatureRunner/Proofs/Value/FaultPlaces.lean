import FeatureRunner.Proofs.Value.Shapes
import Mathlib.Data.List.Basic

/-!
# Where faults are

A path leads from a value to one of its parts, and from a shape to the shapes that govern such a
part.  A part breaks a shape if it is of another kind, or lacks or exceeds what the shape asks of
it, whatever its own parts are like.

This file proves that the faults of a value are exactly its parts that break a shape that governs
them, and that the fault told is an outermost one: no part at a shorter path breaks its shape, and
neither does one at a path of the same length that comes after it.
-/

namespace FeatureRunner

/-- The part of a value that a path leads to, if there is one. -/
def Value.at? : Value → ValuePath → Option Value
  | value, [] => some value
  | .list items, .index position :: rest => items[position]?.bind (at? · rest)
  | .record fields, .key name :: rest => (Record.get? fields name).bind (at? · rest)
  | _, _ :: _ => none

namespace Value

theorem at?_nil (value : Value) : value.at? [] = some value := by
  unfold at?
  rfl

theorem at?_index (value : Value) (position : Nat) (rest : ValuePath) :
    value.at? (.index position :: rest) = value.items[position]?.bind (at? · rest) := by
  cases value <;> simp [at?, items]

theorem at?_key (value : Value) (name : Text) (rest : ValuePath) :
    value.at? (.key name :: rest) = (value.fields.get? name).bind (at? · rest) := by
  cases value <;> simp [at?, fields, Record.get?]

end Value

namespace Shape

/-- A shape has a shape for the parts that a path leads to. -/
inductive Governs : Shape → ValuePath → Shape → Prop
  | here (shape : Shape) : Governs shape [] shape
  | item {item inner : Shape} {path : ValuePath} (position : Nat)
      (governs : Governs item path inner) : Governs (list item) (.index position :: path) inner
  | field {required : List Text} {fields : List (Text × Shape)} {closed : Bool} {name : Text}
      {shape inner : Shape} {path : ValuePath} (named : (name, shape) ∈ fields)
      (governs : Governs shape path inner) :
      Governs (record required fields closed) (.key name :: path) inner

/-- The kind of value that a shape asks for. -/
def HasKind : Shape → Value → Prop
  | anything, _ => True
  | text _, value => ∃ content, value = .text content
  | integer, value => value.IsWhole
  | list _, value => ∃ items, value = .list items
  | record _ _ _, value => ∃ fields, value = .record fields

/-- A value breaks what a shape asks of it, its parts aside. -/
inductive Breaks : Shape → Value → Prop
  | kind {shape : Shape} {value : Value} (other : ¬ shape.HasKind value) : Breaks shape value
  | empty : Breaks (text true) (.text [])
  | missing {required : List Text} {fields : List (Text × Shape)} {closed : Bool}
      {values : Record} {name : Text} (asked : name ∈ required)
      (absent : values.get? name = none) : Breaks (record required fields closed) (.record values)
  | unexpected {required : List Text} {fields : List (Text × Shape)} {values : Record}
      {name : Text} (present : name ∈ values.keys) (unknown : name ∉ fields.map Prod.fst) :
      Breaks (record required fields true) (.record values)

variable {shape item : Shape} {value part : Value}

theorem not_breaks_anything : ¬ anything.Breaks value := by
  rintro (other | _)
  exact other trivial

theorem breaks_text_iff {nonEmpty : Bool} :
    (text nonEmpty).Breaks value ↔
      ¬ ∃ content, value = .text content ∧ (nonEmpty = true → content ≠ []) := by
  constructor
  · rintro (other | _) ⟨content, same, filled⟩
    · exact other ⟨content, same⟩
    · cases same
      exact filled rfl rfl
  · intro off
    by_cases isText : ∃ content, value = .text content
    · obtain ⟨content, rfl⟩ := isText
      simp only [Value.text.injEq, exists_eq_left', Classical.not_imp, not_not] at off
      obtain ⟨rfl, rfl⟩ := off
      exact .empty
    · exact .kind isText

theorem breaks_integer_iff : integer.Breaks value ↔ ¬ value.IsWhole :=
  ⟨fun | .kind other => other, fun other => .kind other⟩

theorem breaks_list_iff : (list item).Breaks value ↔ ¬ ∃ items, value = .list items :=
  ⟨fun | .kind other => other, fun other => .kind other⟩

theorem breaks_record_iff {required : List Text} {fields : List (Text × Shape)} {closed : Bool} :
    (record required fields closed).Breaks value ↔
      ¬ ∃ values : Record, value = .record values ∧
        (∀ name ∈ required, ∃ part, values.get? name = some part) ∧
        (closed = true → values.KeysAmong (fields.map Prod.fst)) := by
  constructor
  · rintro (other | _ | ⟨asked, absent⟩ | ⟨present, unknown⟩) ⟨values, same, complete, known⟩
    · exact other ⟨values, same⟩
    · cases same
      obtain ⟨part, has⟩ := complete _ asked
      cases absent.symm.trans has
    · cases same
      exact unknown (known rfl _ present)
  · intro off
    by_cases isRecord : ∃ values, value = .record values
    · obtain ⟨values, rfl⟩ := isRecord
      by_cases complete : ∀ name ∈ required, ∃ part, Record.get? values name = some part
      · have unknown : ¬ (closed = true → Record.KeysAmong values (fields.map Prod.fst)) :=
          fun known => off ⟨values, rfl, complete, known⟩
        rw [Classical.not_imp] at unknown
        obtain ⟨rfl, others⟩ := unknown
        simp only [Record.KeysAmong, not_forall] at others
        obtain ⟨name, present, unknown⟩ := others
        exact .unexpected present unknown
      · push Not at complete
        obtain ⟨name, asked, absent⟩ := complete
        exact .missing asked (Option.eq_none_iff_forall_ne_some.mpr absent)
    · exact .kind isRecord

/-- A shape finds no flaw in a value exactly if the value does not break it. -/
theorem flaws_eq_nil_iff : shape.flaws value = [] ↔ ¬ shape.Breaks value := by
  cases shape with
  | anything => exact ⟨fun _ => not_breaks_anything, fun _ => rfl⟩
  | text nonEmpty => rw [text_flaws_eq_nil_iff, breaks_text_iff, not_not]
  | integer => rw [integer_flaws_eq_nil_iff, breaks_integer_iff, not_not]
  | list item =>
      rw [breaks_list_iff, not_not]
      cases value <;> simp [flaws]
  | record required fields closed =>
      rw [breaks_record_iff, not_not]
      cases value with
      | record values => simp [flaws, recordFlaws_eq_nil_iff]
      | _ => simp [flaws]

theorem exists_mem_flaws_iff : (∃ flaw, flaw ∈ shape.flaws value) ↔ shape.Breaks value := by
  rw [← not_iff_not, ← flaws_eq_nil_iff, List.eq_nil_iff_forall_not_mem, not_exists]

/-- A flaw of the part that a path leads to, for a shape that governs it. -/
def HasFault (shape : Shape) (value : Value) (path : ValuePath) (flaw : ShapeFlaw) : Prop :=
  ∃ inner part, shape.Governs path inner ∧ value.at? path = some part ∧ flaw ∈ inner.flaws part

section Faults

variable {path rest : ValuePath} {step : PathStep} {flaw : ShapeFlaw}

theorem hasFault_nil_iff : shape.HasFault value [] flaw ↔ flaw ∈ shape.flaws value := by
  constructor
  · rintro ⟨inner, part, ⟨⟩, here, flawed⟩
    cases (Value.at?_nil value).symm.trans here
    exact flawed
  · intro flawed
    exact ⟨shape, value, .here shape, value.at?_nil, flawed⟩

theorem hasFault_list_cons_iff :
    (list item).HasFault value (step :: rest) flaw ↔
      ∃ position part, step = .index position ∧ value.items[position]? = some part ∧
        item.HasFault part rest flaw := by
  constructor
  · rintro ⟨inner, part, governs, leads, flawed⟩
    cases governs with
    | item position governs =>
        rw [Value.at?_index, Option.bind_eq_some_iff] at leads
        obtain ⟨first, at_, leads⟩ := leads
        exact ⟨position, first, rfl, at_, inner, part, governs, leads, flawed⟩
  · rintro ⟨position, first, rfl, at_, inner, part, governs, leads, flawed⟩
    refine ⟨inner, part, .item position governs, ?_, flawed⟩
    rw [Value.at?_index, at_]
    exact leads

theorem hasFault_record_cons_iff {required : List Text} {fields : List (Text × Shape)}
    {closed : Bool} :
    (record required fields closed).HasFault value (step :: rest) flaw ↔
      ∃ field ∈ fields, ∃ part, value.fields.get? field.1 = some part ∧ step = .key field.1 ∧
        field.2.HasFault part rest flaw := by
  constructor
  · rintro ⟨inner, part, governs, leads, flawed⟩
    cases governs with
    | @field _ _ _ name shape _ _ named governs =>
        rw [Value.at?_key, Option.bind_eq_some_iff] at leads
        obtain ⟨first, has, leads⟩ := leads
        exact ⟨(name, shape), named, first, has, rfl, inner, part, governs, leads, flawed⟩
  · rintro ⟨⟨name, shape⟩, named, first, has, rfl, inner, part, governs, leads, flawed⟩
    refine ⟨inner, part, .field named governs, ?_, flawed⟩
    rw [Value.at?_key, has]
    exact leads

theorem mem_map_own_iff {flaws : List ShapeFlaw} :
    (⟨path, flaw⟩ : ShapeFault) ∈ flaws.map (⟨[], ·⟩) ↔ path = [] ∧ flaw ∈ flaws := by
  simp [eq_comm, and_comm]

theorem mem_map_under_iff {other : PathStep} {faults : List ShapeFault} :
    (⟨path, flaw⟩ : ShapeFault) ∈ faults.map (.under other) ↔
      ∃ rest, path = other :: rest ∧ ⟨rest, flaw⟩ ∈ faults := by
  constructor
  · intro among
    obtain ⟨⟨rest, own⟩, member, same⟩ := List.mem_map.mp among
    cases same
    exact ⟨rest, rfl, member⟩
  · rintro ⟨rest, rfl, member⟩
    exact List.mem_map.mpr ⟨_, member, rfl⟩

theorem not_mem_fieldFaults_nil (fields : List (Text × Shape)) (values : Record) :
    (⟨[], flaw⟩ : ShapeFault) ∉ fieldFaults fields values := by
  induction fields with
  | nil => simp [fieldFaults]
  | cons field others ih =>
      rw [fieldFaults, List.mem_append, not_or]
      refine ⟨?_, ih⟩
      cases values.get? field.1 with
      | none => simp
      | some value => simp [mem_map_under_iff]

theorem mem_faults_nil_iff :
    (⟨[], flaw⟩ : ShapeFault) ∈ shape.faults value ↔ flaw ∈ shape.flaws value := by
  cases shape with
  | anything => simp [faults, flaws]
  | text nonEmpty => simp [faults]
  | integer => simp [faults]
  | list item => simp [faults, mem_map_under_iff]
  | record required fields closed => simp [faults, not_mem_fieldFaults_nil]

end Faults

mutual

/-- The faults of a value are the flaws of its parts, each for the shape that governs its place. -/
theorem mem_faults_iff : ∀ (shape : Shape) (value : Value) (path : ValuePath) (flaw : ShapeFlaw),
    ⟨path, flaw⟩ ∈ shape.faults value ↔ shape.HasFault value path flaw
  | shape, value, [], flaw => by
      rw [hasFault_nil_iff, mem_faults_nil_iff]
  | anything, value, step :: rest, flaw => by
      rw [faults, iff_false_left List.not_mem_nil]
      rintro ⟨_, _, ⟨⟩, _⟩
  | text nonEmpty, value, step :: rest, flaw => by
      rw [faults, mem_map_own_iff, iff_false_left (by simp)]
      rintro ⟨_, _, ⟨⟩, _⟩
  | integer, value, step :: rest, flaw => by
      rw [faults, mem_map_own_iff, iff_false_left (by simp)]
      rintro ⟨_, _, ⟨⟩, _⟩
  | list item, value, step :: rest, flaw => by
      rw [faults, List.mem_append, mem_map_own_iff, hasFault_list_cons_iff]
      simp only [reduceCtorEq, false_and, false_or, List.mem_flatMap, mem_map_under_iff,
        List.cons.injEq, Prod.exists, List.mk_mem_zipIdx_iff_getElem?]
      constructor
      · rintro ⟨part, position, at_, _, ⟨rfl, rfl⟩, inside⟩
        exact ⟨position, part, rfl, at_, (mem_faults_iff item part rest flaw).mp inside⟩
      · rintro ⟨position, part, rfl, at_, inside⟩
        exact ⟨part, position, at_, rest, ⟨rfl, rfl⟩,
          (mem_faults_iff item part rest flaw).mpr inside⟩
  | record required fields closed, value, step :: rest, flaw => by
      rw [faults, List.mem_append, mem_map_own_iff, mem_fieldFaults_iff fields,
        hasFault_record_cons_iff]
      simp

theorem mem_fieldFaults_iff : ∀ (fields : List (Text × Shape)) (values : Record)
    (path : ValuePath) (flaw : ShapeFlaw), ⟨path, flaw⟩ ∈ fieldFaults fields values ↔
      ∃ field ∈ fields, ∃ part, values.get? field.1 = some part ∧ ∃ rest,
        path = .key field.1 :: rest ∧ field.2.HasFault part rest flaw
  | [], values, path, flaw => by simp [fieldFaults]
  | (key, shape) :: others, values, path, flaw => by
      rw [fieldFaults, List.mem_append, mem_fieldFaults_iff others, List.exists_mem_cons_iff]
      apply or_congr_left
      cases values.get? key with
      | none => simp
      | some value => simp [mem_map_under_iff, mem_faults_iff shape value]

end

end Shape

namespace PathStep

theorem before_irrefl (step : PathStep) : step.before step = false := by
  cases step with
  | key name => simp [before]
  | index position => simp [before]

theorem before_trans {a b c : PathStep} (first : a.before b = true) (second : b.before c = true) :
    a.before c = true := by
  cases a <;> cases b <;> cases c <;> simp only [before, decide_eq_true_eq] at first second ⊢
  case key.key.key => exact List.lt_trans first second
  case index.index.index => omega
  all_goals contradiction

theorem eq_or_before (a b : PathStep) : a = b ∨ a.before b = true ∨ b.before a = true := by
  cases a with
  | key first =>
      cases b with
      | index position => exact .inr (.inl rfl)
      | key second =>
          simp only [before, decide_eq_true_eq, key.injEq]
          by_cases smaller : first < second
          · exact .inr (.inl smaller)
          · by_cases greater : second < first
            · exact .inr (.inr greater)
            · exact .inl (List.le_antisymm (List.not_lt.mp greater) (List.not_lt.mp smaller))
  | index first =>
      cases b with
      | key name => exact .inr (.inr rfl)
      | index second =>
          simp only [before, decide_eq_true_eq, index.injEq]
          omega

end PathStep

namespace ValuePath

variable {a b c : ValuePath}

theorem before_cons_iff {first second : PathStep} :
    before (first :: a) (second :: b) = true ↔
      first.before second = true ∨ first = second ∧ before a b = true := by
  simp [before]

theorem before_irrefl (path : ValuePath) : before path path = false := by
  induction path with
  | nil => rfl
  | cons step rest ih => simp [before, step.before_irrefl, ih]

theorem before_trans (first : before a b = true) (second : before b c = true) :
    before a c = true := by
  induction a generalizing b c with
  | nil => simp [before] at first
  | cons step rest ih =>
      cases b with
      | nil => simp [before] at first
      | cons other others =>
          cases c with
          | nil => simp [before] at second
          | cons last lasts =>
              rw [before_cons_iff] at first second ⊢
              rcases first with ahead | ⟨rfl, inside⟩
              · rcases second with further | ⟨rfl, -⟩
                · exact .inl (PathStep.before_trans ahead further)
                · exact .inl ahead
              · rcases second with further | ⟨rfl, deeper⟩
                · exact .inl further
                · exact .inr ⟨rfl, ih inside deeper⟩

theorem eq_or_before (same : a.length = b.length) :
    a = b ∨ before a b = true ∨ before b a = true := by
  induction a generalizing b with
  | nil =>
      cases b with
      | nil => exact .inl rfl
      | cons step rest => simp at same
  | cons step rest ih =>
      cases b with
      | nil => simp at same
      | cons other others =>
          rw [before_cons_iff, before_cons_iff]
          rcases step.eq_or_before other with rfl | ahead | after
          · rcases ih (by simpa using same) with rfl | ahead | after
            · exact .inl rfl
            · exact .inr (.inl (.inr ⟨rfl, ahead⟩))
            · exact .inr (.inr (.inr ⟨rfl, after⟩))
          · exact .inr (.inl (.inl ahead))
          · exact .inr (.inr (.inl after))

theorem outranks_iff :
    a.outranks b = true ↔ a.length < b.length ∨ a.length = b.length ∧ before b a = true := by
  simp [outranks]

theorem not_outranks_self (path : ValuePath) : ¬ path.outranks path = true := by
  simp [outranks_iff, before_irrefl]

theorem outranks_trans (first : a.outranks b = true) (second : b.outranks c = true) :
    a.outranks c = true := by
  rw [outranks_iff] at first second ⊢
  rcases first with shorter | ⟨same, after⟩
  · rcases second with further | ⟨alike, -⟩
    · exact .inl (by omega)
    · exact .inl (by omega)
  · rcases second with further | ⟨alike, later⟩
    · exact .inl (by omega)
    · exact .inr ⟨same.trans alike, before_trans later after⟩

theorem eq_or_outranks (a b : ValuePath) :
    a = b ∨ a.outranks b = true ∨ b.outranks a = true := by
  rw [outranks_iff, outranks_iff]
  rcases Nat.lt_trichotomy a.length b.length with shorter | same | longer
  · exact .inr (.inl (.inl shorter))
  · rcases eq_or_before same with alike | ahead | after
    · exact .inl alike
    · exact .inr (.inr (.inr ⟨same.symm, ahead⟩))
    · exact .inr (.inl (.inr ⟨same, after⟩))
  · exact .inr (.inr (.inl longer))

end ValuePath

namespace ShapeFault

theorem mem_of_outermost? {faults : List ShapeFault} {fault : ShapeFault}
    (told : outermost? faults = some fault) : fault ∈ faults := by
  induction faults generalizing fault with
  | nil => cases told
  | cons first others ih =>
      unfold outermost? at told
      split at told
      · cases told
        exact List.mem_cons_self
      · next other found =>
        split at told
        · cases told
          exact List.mem_cons_of_mem _ (ih found)
        · cases told
          exact List.mem_cons_self

/-- No fault outranks the one that is told. -/
theorem not_outranks_outermost? {faults : List ShapeFault} {fault : ShapeFault}
    (told : outermost? faults = some fault) :
    ∀ other ∈ faults, ¬ other.path.outranks fault.path = true := by
  induction faults generalizing fault with
  | nil => simp
  | cons first others ih =>
      unfold outermost? at told
      split at told
      · next none =>
        cases told
        rw [Shape.outermost?_eq_none_iff.mp none]
        simpa using ValuePath.not_outranks_self first.path
      · next best found =>
        split at told
        · next better =>
          cases told
          refine List.forall_mem_cons.mpr ⟨fun worse => ?_, ih found⟩
          exact ValuePath.not_outranks_self _ (ValuePath.outranks_trans better worse)
        · next notBetter =>
          cases told
          refine List.forall_mem_cons.mpr ⟨ValuePath.not_outranks_self _, ?_⟩
          intro other member outranks
          -- What outranks the first fault would outrank the best of the others too.
          have notBest := ih found other member
          rcases ValuePath.eq_or_outranks best.path first.path with same | ahead | behind
          · exact notBest (same ▸ outranks)
          · exact notBetter ahead
          · exact notBest (ValuePath.outranks_trans outranks behind)

end ShapeFault

namespace Shape

variable {shape : Shape} {value : Value} {fault : ShapeFault}

/-- What a check tells is a fault, and no fault outranks it. -/
theorem outermost_of_check (refused : shape.check value = .error fault) :
    shape.HasFault value fault.path fault.flaw ∧
      ∀ path flaw, shape.HasFault value path flaw → ¬ path.outranks fault.path = true := by
  have told : ShapeFault.outermost? (shape.faults value) = some fault := by
    unfold check at refused
    split at refused
    · next found =>
      cases refused
      exact found
    · cases refused
  refine ⟨(mem_faults_iff _ _ _ _).mp (ShapeFault.mem_of_outermost? told), ?_⟩
  intro path flaw isFault
  exact ShapeFault.not_outranks_outermost? told _ ((mem_faults_iff _ _ _ _).mpr isFault)

/-- No part that breaks its shape outranks what a check tells. -/
theorem not_outranks_of_breaks (refused : shape.check value = .error fault) {path : ValuePath}
    {inner : Shape} {part : Value} (governs : shape.Governs path inner)
    (leads : value.at? path = some part) (breaks : inner.Breaks part) :
    ¬ path.outranks fault.path = true := by
  obtain ⟨flaw, flawed⟩ := exists_mem_flaws_iff.mpr breaks
  exact (outermost_of_check refused).2 path flaw ⟨inner, part, governs, leads, flawed⟩

end Shape

end FeatureRunner
