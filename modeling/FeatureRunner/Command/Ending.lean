import FeatureRunner.Envelope
import FeatureRunner.Feature.File
import FeatureRunner.Run.Observer
import FeatureRunner.Settings

/-!
# How a command ends

A command ends in an envelope, in a plain line, in the refusal of its arguments, in the request of
an action to leave, or in a fault that no envelope tells of.  The ending decides what is printed,
and the number that the program exits with.  An envelope is not printed if its text has no bytes;
the fault of writing it takes its place.
-/

namespace FeatureRunner

/-- A fault that no envelope tells of. -/
inductive Escape where
  | settings (fault : SettingsFault)
  | feature (fault : FeatureFault)
  | unknownLevel (name : Text)
  | library (failure : Failure)
  | run (abort : Abort)
  | exit (kind : Text) (detail : Option Value)

/-- The message about a fault that no envelope tells of. -/
def Escape.message : Escape → Text
  | settings fault => fault.message
  | feature fault => fault.message
  | unknownLevel name => "Level '".toList ++ name ++ "' does not exist".toList
  | library failure => failure.message
  | run abort => abort.message
  | exit kind detail => (Failure.exit kind detail).message

/-- How a command ends. -/
inductive Ending where
  | envelope (succeeded : Bool) (content : Value)
  | line (content : Text)
  | help
  | misused
  | leaving (kind : Text) (detail : Option Value)
  | escaping (escape : Escape)

namespace Ending

def helpText : Text :=
  ("Usage: cukerun [--log-level LEVEL] version [--json]\n" ++
    "       cukerun [--log-level LEVEL] run FEATURE --steps MODULE [--steps MODULE]...\n" ++
    "               [--tags EXPRESSION] [--extra-fields | --no-extra-fields]\n").toList

/-- The kind of a request to leave that stands for an interruption. -/
def interruption : Text := "KeyboardInterrupt".toList

/-- The kind of a request to leave that can carry an exit code. -/
def systemExit : Text := "SystemExit".toList

/-- The exit code of an interruption or a request to leave, and what it prints. -/
def ofLeaving (kind : Text) (detail : Option Value) : Int × Text :=
  if kind = interruption then (130, [])
  else
    match detail with
    | none => (0, [])
    | some .null => (0, [])
    | some (.int code) => (code, [])
    | some (.bool truth) => (if truth then 1 else 0, [])
    | some other => (1, other.display ++ ['\n'])

def exitCode : Ending → Int
  | envelope succeeded _ => if succeeded then 0 else 1
  | line _ => 0
  | help => 0
  | misused => 2
  | leaving kind detail => (ofLeaving kind detail).1
  | escaping _ => 1

def output : Ending → Text
  | envelope _ content => Envelope.text content ++ ['\n']
  | line content => content ++ ['\n']
  | help => helpText
  | misused => []
  | leaving kind detail => (ofLeaving kind detail).2
  | escaping _ => []

/-- What is said apart from the output, if the command was not carried out. -/
def complaint : Ending → Text
  | misused => helpText
  | escaping escape => escape.message ++ ['\n']
  | _ => []

def ok (command : String) (data : Value) : Ending :=
  envelope true (Envelope.ok (.text command.toList) data Envelope.currentVersion)

def err (command : String) (type : ErrorType) (message : Text) (details : Value) : Ending :=
  envelope false
    (Envelope.err (.text command.toList) type (.text message) details Envelope.currentVersion)

/-- The ending that settings which are not known lead to: an envelope for those that are written
wrongly. -/
def ofSettingsFault (command : String) (details : Value) : SettingsFault → Ending
  | .home .unknown => escaping (.settings (.home .unknown))
  | .tooDeep => escaping (.settings .tooDeep)
  | .file fault => escaping (.settings (.file fault))
  | fault => err command .invalidArgument fault.message details

/-- The ending that a feature which is not read leads to: an envelope for a missing file and for
a content that is no feature. -/
def ofFeatureFault (command : String) (details : Value) : FeatureFault → Ending
  | .home .unknown => escaping (.feature (.home .unknown))
  | .tooDeep nest => escaping (.feature (.tooDeep nest))
  | .file ⟨path, .missing⟩ =>
    err command .notFound (FileFault.message ⟨path, .missing⟩) details
  | .file ⟨path, .nullCharacter⟩ =>
    err command .invalidArgument (FileFault.message ⟨path, .nullCharacter⟩) details
  | .file fault => escaping (.feature (.file fault))
  | fault => err command .invalidArgument fault.message details

/-- The ending that an exit of the given kind leads to.  Only interruptions and requests to leave
are heeded; other exits get through as they are. -/
def ofExit (kind : Text) (detail : Option Value) : Ending :=
  if kind = interruption ∨ kind = systemExit then leaving kind detail
  else escaping (.exit kind detail)

/-- The ending that the early end of a run leads to. -/
def ofAbort : Abort → Ending
  | .exit (.exit kind detail) => ofExit kind detail
  | abort => escaping (.run abort)

/-- The failure of printing a text that has no bytes. -/
def unprintable (fault : EncodingFault) : Failure :=
  .ofMessage "UnicodeEncodeError" fault.message

/-- What an ending becomes when it is printed. -/
def printed : Ending → Ending
  | envelope succeeded content =>
    match (Envelope.text content).encodingFault? with
    | none => envelope succeeded content
    | some fault => escaping (.run (.exit (unprintable fault)))
  | ending => ending

end Ending

end FeatureRunner
