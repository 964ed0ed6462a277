import FeatureRunner.Number.Double
import FeatureRunner.Text.Basic

/-!
# Dynamic values

Step data, outline rows, stashes, settings and documents hold values whose kind is known only
when a run looks at them.  A record keeps its fields in the order in which their keys first
appeared; writing a key again replaces the value and keeps the place.
-/

namespace FeatureRunner

/-- A dynamic value.  A moment is a date or time of day, known by the text that shows it. -/
inductive Value where
  | null
  | bool (truth : Bool)
  | int (number : Int)
  | float (number : Double)
  | text (content : Text)
  | list (items : List Value)
  | record (fields : List (Text × Value))
  | moment (shown : Text)

abbrev Record := List (Text × Value)

namespace Record

def get? : Record → Text → Option Value
  | [], _ => none
  | (k, v) :: rest, key => if k = key then some v else get? rest key

def has (fields : Record) (key : Text) : Bool := (fields.get? key).isSome

/-- The record after writing a key: at its place if it is present, else at the end. -/
def put : Record → Text → Value → Record
  | [], key, value => [(key, value)]
  | (k, v) :: rest, key, value =>
    if k = key then (k, value) :: rest else (k, v) :: put rest key value

/-- The record without a key. -/
def drop (fields : Record) (key : Text) : Record := fields.filter fun field => field.1 ≠ key

/-- The record after writing all entries in order. -/
def ofEntries (entries : List (Text × Value)) : Record :=
  entries.foldl (fun fields entry => fields.put entry.1 entry.2) []

def keys (fields : Record) : List Text := fields.map Prod.fst

/-- The key just written has the value just written. -/
@[simp]
theorem get?_put_self (fields : Record) (key : Text) (value : Value) :
    (fields.put key value).get? key = some value := by
  induction fields with
  | nil => simp [put, get?]
  | cons field rest ih =>
    obtain ⟨k, v⟩ := field
    by_cases same : k = key
    · simp [put, get?, same]
    · simp [put, get?, same, ih]

/-- Writing a key leaves the values of all other keys. -/
theorem get?_put_of_ne {fields : Record} {key other : Text} {value : Value}
    (different : key ≠ other) : (fields.put key value).get? other = fields.get? other := by
  induction fields with
  | nil => simp [put, get?, different]
  | cons field rest ih =>
    obtain ⟨k, v⟩ := field
    by_cases same : k = key
    · subst same
      simp [put, get?, different]
    · simp [put, get?, same, ih]

end Record

namespace Value

/-- Whether a value counts as true: everything but null, false, the zeros, and the empty text,
list and record. -/
def isTruthy : Value → Bool
  | null => false
  | bool truth => truth
  | int number => number != 0
  | float number => !number.isZero
  | text content => !content.isEmpty
  | list items => !items.isEmpty
  | record fields => !fields.isEmpty
  | moment _ => true

def kindName : Value → Text
  | null => "NoneType".toList
  | bool _ => "bool".toList
  | int _ => "int".toList
  | float _ => "float".toList
  | text _ => "str".toList
  | list _ => "list".toList
  | record _ => "dict".toList
  | moment _ => "datetime".toList

/-- Whether a value has parts, so that a step works on a copy of its own. -/
def isContainer : Value → Bool
  | list _ => true
  | record _ => true
  | _ => false

mutual

/-- How many lists and records are open at once in a value. -/
def nesting : Value → Nat
  | list items => itemNesting items + 1
  | record fields => fieldNesting fields + 1
  | _ => 0

def itemNesting : List Value → Nat
  | [] => 0
  | item :: rest => max (nesting item) (itemNesting rest)

/-- How many lists and records are open at once in the fields of a record. -/
def fieldNesting : List (Text × Value) → Nat
  | [] => 0
  | (_, value) :: rest => max (nesting value) (fieldNesting rest)

end

theorem itemNesting_le_iff {items : List Value} {room : Nat} :
    itemNesting items ≤ room ↔ ∀ item ∈ items, item.nesting ≤ room := by
  induction items with
  | nil => simp [itemNesting]
  | cons item rest ih => rw [itemNesting, Nat.max_le, ih, List.forall_mem_cons]

theorem fieldNesting_le_iff {fields : Record} {room : Nat} :
    fieldNesting fields ≤ room ↔ ∀ field ∈ fields, field.2.nesting ≤ room := by
  induction fields with
  | nil => simp [fieldNesting]
  | cons field rest ih => rw [fieldNesting, Nat.max_le, ih, List.forall_mem_cons]

theorem nesting_list_le_iff {items : List Value} {room : Nat} :
    (list items).nesting ≤ room + 1 ↔ ∀ item ∈ items, item.nesting ≤ room := by
  rw [nesting, Nat.add_le_add_iff_right, itemNesting_le_iff]

theorem nesting_record_le_iff {fields : Record} {room : Nat} :
    (record fields).nesting ≤ room + 1 ↔ ∀ field ∈ fields, field.2.nesting ≤ room := by
  rw [nesting, Nat.add_le_add_iff_right, fieldNesting_le_iff]

/-- The integer that a value equals as a number, if there is one.  The truth values count as
one and zero. -/
def asInt? : Value → Option Int
  | bool truth => some (if truth then 1 else 0)
  | int number => some number
  | float number => number.toInt?
  | _ => none

/-- The items of a list; other values have none. -/
def items : Value → List Value
  | list items => items
  | _ => []

/-- The fields of a record; other values have none. -/
def fields : Value → Record
  | record fields => fields
  | _ => []

/-- The content of a text; other values have none. -/
def content : Value → Text
  | text content => content
  | _ => []

/-- The value of a field, if there is such a field. -/
def field? (value : Value) (key : String) : Option Value := Record.get? value.fields key.toList

def ofText? : Option Text → Value
  | some content => text content
  | none => null

def ofNat (n : Nat) : Value := int n

end Value

end FeatureRunner
