import FeatureRunner.Value.Display

/-!
# Results of steps

A step ends in one of four statuses, with an output text.  A status may be told by a value, which
has to be one of four words.  A step that never ran its action has an output that says so after a
fixed marker.  The worst of several statuses is failing, then undefined, then pending.
-/

namespace FeatureRunner

/-- The status of a step. -/
inductive Status where
  | passing
  | failing
  | pending
  | undefined
deriving DecidableEq, Repr

namespace Status

/-- All statuses, in the order in which messages list them. -/
def all : List Status := [passing, failing, pending, undefined]

def word : Status → Text
  | passing => "passing".toList
  | failing => "failing".toList
  | pending => "pending".toList
  | undefined => "undefined".toList

def ofWord? (word : Text) : Option Status := all.find? fun status => status.word = word

/-- The worst of the statuses in a list, which is passing if the list has no other one. -/
def worst (statuses : List Status) : Status :=
  if failing ∈ statuses then failing
  else if undefined ∈ statuses then undefined
  else if pending ∈ statuses then pending
  else passing

def ofValue? : Value → Option Status
  | .text word => ofWord? word
  | _ => none

/-- The worst of the statuses that the values stand for.  Values for no status do not count. -/
def worstOfValues (values : List Value) : Status := worst (values.filterMap ofValue?)

end Status

/-- The result of a step. -/
structure Result where
  status : Status
  output : Text
deriving DecidableEq, Repr

/-- A value that stands for no status. -/
structure UnknownStatus where
  given : Value

/-- The message about a value that stands for no status. -/
def UnknownStatus.message (unknown : UnknownStatus) : Text :=
  "Unknown result status: ".toList ++ unknown.given.literal ++ " (expected one of ".toList ++
    Text.join ", ".toList (Status.all.map Status.word) ++ [')']

namespace Result

def passed (result : Result) : Bool := result.status = .passing

/-- What the output of a step that never ran begins with. -/
def skipMarker : Text := "1..0 # SKIP ".toList

/-- The result of a step that never ran, with the reason. -/
def skipped (status : Status) (reason : Text) : Result := ⟨status, skipMarker ++ reason⟩

/-- The result whose status is given by a value. -/
def ofValue (given : Value) (output : Text) : Except UnknownStatus Result :=
  match Status.ofValue? given with
  | some status => .ok ⟨status, output⟩
  | none => .error ⟨given⟩

/-- The result of a step that never ran, whose status is given by a value. -/
def skippedOfValue (given : Value) (reason : Text) : Except UnknownStatus Result :=
  ofValue given (skipMarker ++ reason)

end Result

end FeatureRunner
