import FeatureRunner.Json.Writer
import FeatureRunner.Value.Failure

/-!
# Envelopes

The command line answers with one envelope: whether the command succeeded, the version of the
envelope's form, the command, and either its data or a typed error.  The types of errors are few
and fixed.
-/

namespace FeatureRunner

/-- An error type that is not known. -/
structure UnknownErrorType where
  name : Value

/-- The message about an error type that is not known. -/
def UnknownErrorType.message (unknown : UnknownErrorType) : Text :=
  "Unknown error type: ".toList ++ unknown.name.literal ++
    ". Add it to cukerun.core.error_types.KNOWN_ERROR_TYPES.".toList

/-- The failure of an error type that is not known.  A value with parts cannot even be looked
up. -/
def UnknownErrorType.failure (unknown : UnknownErrorType) : Failure :=
  if unknown.name.isContainer then
    .ofMessage "TypeError"
      ("unhashable type: '".toList ++ unknown.name.kindName ++ "'".toList)
  else .ofMessage "ValueError" unknown.message

/-- The types of errors that an envelope may carry. -/
inductive ErrorType where
  | invalidArgument
  | notFound
  | stepLibraryFailed
  | stepsFailed
deriving DecidableEq, Repr

namespace ErrorType

def all : List ErrorType := [invalidArgument, notFound, stepLibraryFailed, stepsFailed]

def name : ErrorType → Text
  | invalidArgument => "INVALID_ARGUMENT".toList
  | notFound => "NOT_FOUND".toList
  | stepLibraryFailed => "STEP_LIBRARY_FAILED".toList
  | stepsFailed => "STEPS_FAILED".toList

def ofName? (name : Text) : Option ErrorType := all.find? fun type => type.name = name

end ErrorType

namespace Envelope

def currentVersion : Value := .text ['1']

/-- A value in the place of data or details, where a value that counts as false stands for no
fields. -/
def orNoFields (value : Value) : Value := if value.isTruthy then value else .record []

def ok (command data version : Value) : Value :=
  .record [
    ("ok".toList, .bool true),
    ("schema_version".toList, version),
    ("command".toList, command),
    ("data".toList, orNoFields data)]

def err (command : Value) (type : ErrorType) (message details version : Value) : Value :=
  .record [
    ("ok".toList, .bool false),
    ("schema_version".toList, version),
    ("command".toList, command),
    ("error".toList, .record [
      ("type".toList, .text type.name),
      ("message".toList, message),
      ("details".toList, orNoFields details)])]

/-- The envelope of a command that failed with an error whose type is given by name. -/
def errOfName (command type message details version : Value) :
    Except UnknownErrorType Value :=
  match type with
  | .text name =>
    match ErrorType.ofName? name with
    | some known => .ok (err command known message details version)
    | none => .error ⟨type⟩
  | _ => .error ⟨type⟩

/-- The text of an envelope, ended by a line feed. -/
def text (envelope : Value) : Text := Json.write envelope ++ ['\n']

/-- The text of an envelope, if there is room for its lists and records.  Writing takes one more
call inside the others for each of them that is open, so that the room depends on the calls open
before. -/
def textWithin (room : Nat) (envelope : Value) : Option Text :=
  if envelope.nesting ≤ room then some (text envelope) else none

end Envelope

end FeatureRunner
