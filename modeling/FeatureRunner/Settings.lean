import FeatureRunner.Environment
import FeatureRunner.Text.Case
import FeatureRunner.Toml.Document
import FeatureRunner.Value.Display

/-!
# Settings

Settings are written in a file, whose path a variable may tell.  A file that is not there writes
no settings.  What was read once is kept in a cache until the cache is emptied; a reading that
fails leaves the cache empty.  Some settings are told by variables of their own, and then the
file is not looked at.
-/

namespace FeatureRunner

/-- Why a setting is not known. -/
inductive SettingsFault where
  | home (fault : HomeFault)
  | file (fault : FileFault)
  | invalidFile (path : FilePath)
  | encoding (fault : Utf8Fault)
  | longNumber (digits : Nat)
  | unwritableNumber
  | tooDeep
  | notBoolean (value : Value)
  | notLevel (value : Value)

/-- The message about a setting that is not known. -/
def SettingsFault.message : SettingsFault → Text
  | home fault => fault.message
  | file fault => fault.message
  | invalidFile path => "Invalid config file: ".toList ++ path.toText
  | encoding fault => fault.message
  | longNumber digits => longNumberMessage digits
  | unwritableNumber => unwritableNumberMessage
  | tooDeep => "maximum recursion depth exceeded".toList
  | notBoolean value =>
    "executor.extra_fields must be a boolean, got ".toList ++ value.literal
  | notLevel value => "logging.level must be a level name, got ".toList ++ value.literal

/-- The fault of a value that a setting cannot have, of the kind that tells the value, unless the
value cannot be shown. -/
def SettingsFault.ofValue (telling : Value → SettingsFault) (value : Value) : SettingsFault :=
  match value.showFlaw? Value.showLimit with
  | none => telling value
  | some .longNumber => unwritableNumber
  | some .tooDeep => tooDeep

/-- A computation that reads settings, with the cache as its state. -/
abbrev SettingsM := ExceptT SettingsFault (StateM (Option Record))

namespace Settings

def toldPath (environment : Environment) (text : Text) : Except SettingsFault FilePath :=
  (environment.path text).mapError .home

def path (environment : Environment) : Except SettingsFault FilePath :=
  match environment.filledValue? "CUKERUN_CONFIG_PATH" with
  | some told => toldPath environment told
  | none => do
    let folder ←
      match environment.filledValue? "XDG_CONFIG_HOME" with
      | some told => toldPath environment told
      | none => (toldPath environment ['~']).map (·.append [".config".toList])
    return folder.append ["cukerun".toList, "config.toml".toList]

def ofText (path : FilePath) (text : Text) : Except SettingsFault Record :=
  (Toml.read text).mapError fun
    | .malformed => .invalidFile path
    | .longNumber digits => .longNumber digits
    | .tooDeep => .tooDeep

/-- The settings that are written in the file now. -/
def load (environment : Environment) : Except SettingsFault Record := do
  let path ← path environment
  match environment.lookUp path with
  | .error .missing => return []
  | .error .notFolder => return []
  | .error .nullCharacter => return []
  | .error .nameTooLong => .error (.file ⟨path, .nameTooLong⟩)
  | .error .denied => .error (.file ⟨path, .denied⟩)
  | .error .isFolder => .error (.invalidFile path)
  | .ok none => .error (.invalidFile path)
  | .ok (some bytes) =>
    match bytes.text with
    | .error fault => .error (.encoding fault)
    | .ok text => ofText path text

/-- The settings in the cache, which is filled if it is empty. -/
def current (environment : Environment) : SettingsM Record := do
  match ← get with
  | some settings => return settings
  | none =>
    let settings ← (load environment : SettingsM Record)
    set (some settings)
    return settings

/-- Empties the cache. -/
def reset : SettingsM Unit := set (none : Option Record)

def descend : Value → List Text → Option Value
  | value, [] => some value
  | .record fields, key :: keys => (Record.get? fields key).bind fun value => descend value keys
  | _, _ :: _ => none

/-- The setting that keys lead to, or a default. -/
def value (environment : Environment) (keys : List Text) (default : Value) :
    SettingsM Value := do
  let settings ← current environment
  return (descend (.record settings) keys).getD default

def onWords : List Text := ["1", "true", "yes", "on"].map String.toList

/-- Whether actions get the stash of their step as a second argument. -/
def extraFields (environment : Environment) : SettingsM Bool := do
  match environment.value? "CUKERUN_EXTRA_FIELDS" with
  | some word => return decide ((Text.strip word).lower ∈ onWords)
  | none =>
    match ← value environment ["executor".toList, "extra_fields".toList] (.bool false) with
    | .bool enabled => return enabled
    | other => throw (.ofValue .notBoolean other)

/-- The name of a level of notices, from a value. -/
def levelName (value : Value) : Except SettingsFault Text :=
  match value with
  | .text name =>
    if Text.strip name = [] then .error (.ofValue .notLevel value) else .ok (Text.strip name).upper
  | _ => .error (.ofValue .notLevel value)

/-- The name of the level from which on notices are shown. -/
def logLevel (environment : Environment) : SettingsM Text := do
  match environment.filledValue? "CUKERUN_LOG_LEVEL" with
  | some name => levelName (.text name)
  | none => do
    let value ← value environment ["logging".toList, "level".toList]
      (.text "WARNING".toList)
    levelName value

end Settings

end FeatureRunner
