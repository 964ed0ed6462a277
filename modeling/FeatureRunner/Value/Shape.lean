import FeatureRunner.Value.Display

/-!
# Shapes of values

A shape says of which kind a value has to be, and of which shapes its parts.  A fault is a place
inside a value together with what is wrong with the value at that place, its parts aside.

Of several faults the outermost one is told: the one with the shortest path.  Among equally short
paths it is the last one in the order of field names and item positions, and at one place it is
the first flaw.
-/

namespace FeatureRunner

/-- What a value has to be like. -/
inductive Shape where
  | anything
  | text (nonEmpty : Bool)
  | integer
  | list (item : Shape)
  | record (required : List Text) (fields : List (Text × Shape)) (closed : Bool)

/-- A step on the way into a value. -/
inductive PathStep where
  | key (name : Text)
  | index (position : Nat)
deriving DecidableEq, Repr

namespace PathStep

/-- Whether a step comes before another: names in the order of character numbers, positions in
the order of numbers. -/
def before : PathStep → PathStep → Bool
  | key a, key b => decide (a < b)
  | index i, index j => i < j
  | key _, index _ => true
  | index _, key _ => false

def toText : PathStep → Text
  | key name => name
  | index position => Text.ofNat position

end PathStep

abbrev ValuePath := List PathStep

namespace ValuePath

/-- Whether a path comes before another of the same length, step by step. -/
def before : ValuePath → ValuePath → Bool
  | a :: as, b :: bs => a.before b || (a == b && before as bs)
  | _, _ => false

/-- Whether a path is told rather than another. -/
def outranks (a b : ValuePath) : Bool :=
  a.length < b.length || (a.length == b.length && before b a)

/-- The text of a path: its steps between slashes, and a word of its own for the way that does not
go in at all. -/
def toText : ValuePath → Text
  | [] => "<root>".toList
  | path => Text.join ['/'] (path.map PathStep.toText)

end ValuePath

/-- What is wrong with a value, its parts aside. -/
inductive ShapeFlaw where
  | offKind (value : Value) (kind : Text)
  | emptyText
  | missing (key : Text)
  | unexpected (keys : List Text)

def ShapeFlaw.message : ShapeFlaw → Text
  | offKind value kind => value.literal ++ " is not of type ".toList ++ kind.quoted
  | emptyText => "'' should be non-empty".toList
  | missing key => key.quoted ++ " is a required property".toList
  | unexpected keys =>
    "Additional properties are not allowed (".toList ++
      Text.join ", ".toList (keys.map Text.quoted) ++
      (if keys.length = 1 then " was".toList else " were".toList) ++ " unexpected)".toList

/-- A flaw and where it is. -/
structure ShapeFault where
  path : ValuePath
  flaw : ShapeFlaw

namespace ShapeFault

/-- A fault of a part, as a fault of the whole. -/
def under (step : PathStep) (fault : ShapeFault) : ShapeFault :=
  { fault with path := step :: fault.path }

def outermost? : List ShapeFault → Option ShapeFault
  | [] => none
  | fault :: others =>
    match outermost? others with
    | none => some fault
    | some other => if other.path.outranks fault.path then some other else some fault

end ShapeFault

namespace Shape

/-- The flaws of a record for a shape with the given fields: the required keys that are missing,
and then, if no others are allowed, the keys that are not among the fields. -/
def recordFlaws (required known : List Text) (closed : Bool) (fields : Record) :
    List ShapeFlaw :=
  let extra := if closed then fields.keys.filter (· ∉ known) else []
  (required.filter fun key => !fields.has key).map .missing ++
    if extra = [] then []
    else [.unexpected (extra.mergeSort fun a b => !decide (b < a))]

def flaws (shape : Shape) (value : Value) : List ShapeFlaw :=
  match shape, value with
  | anything, _ => []
  | text nonEmpty, .text content =>
    if nonEmpty && content.isEmpty then [.emptyText] else []
  | text _, other => [.offKind other "string".toList]
  | integer, .int _ => []
  | integer, .float number =>
    if number.toInt?.isSome then [] else [.offKind (.float number) "integer".toList]
  | integer, other => [.offKind other "integer".toList]
  | list _, .list _ => []
  | list _, other => [.offKind other "array".toList]
  | record required fields closed, .record values =>
    recordFlaws required (fields.map Prod.fst) closed values
  | record _ _ _, other => [.offKind other "object".toList]

mutual

def faults : Shape → Value → List ShapeFault
  | list item, value =>
    ((list item).flaws value).map (⟨[], ·⟩) ++
      value.items.zipIdx.flatMap fun entry =>
        (faults item entry.1).map (.under (.index entry.2))
  | record required fields closed, value =>
    ((record required fields closed).flaws value).map (⟨[], ·⟩) ++
      fieldFaults fields value.fields
  | anything, _ => []
  | text nonEmpty, value => ((text nonEmpty).flaws value).map (⟨[], ·⟩)
  | integer, value => (integer.flaws value).map (⟨[], ·⟩)

/-- The faults of the fields of a record that have shapes. -/
def fieldFaults : List (Text × Shape) → Record → List ShapeFault
  | [], _ => []
  | (key, shape) :: rest, fields =>
    (match Record.get? fields key with
      | some value => (faults shape value).map (.under (.key key))
      | none => []) ++ fieldFaults rest fields

end

/-- Checks a value, and tells its outermost fault. -/
def check (shape : Shape) (value : Value) : Except ShapeFault Unit :=
  match ShapeFault.outermost? (shape.faults value) with
  | some fault => .error fault
  | none => .ok ()

end Shape

end FeatureRunner
