import FeatureRunner.Registry
import FeatureRunner.Run.Notice
import FeatureRunner.Value.Failure

/-!
# Step libraries

A step library is a module with a list of step definitions, each of them a verb, a pattern and an
action.  What a module exposes may be anything, so it is checked entry by entry before it is used.
The first entry that is not a step definition is told by its position and the first check that it
fails.

Modules do not lie inside one another: loading a name with points ends at its first part.  Lists
stand for tuples as well, also where the kind of a value is told, and other things to go through, as
sets or generators, are not exposed.
-/

namespace FeatureRunner

/-- What a module can expose: patterns and actions beside plain values, and lists of all these. -/
inductive Exposed where
  | value (value : Value)
  | pattern (pattern : Pattern)
  | action (action : Action)
  | list (items : List Exposed)

instance : Inhabited Exposed := ⟨.value .null⟩

/-- A module: what it exposes as its step definitions, if anything, or the failure that loading it
ends in. -/
inductive StepModule where
  | exposing (steps : Option Exposed)
  | failing (failure : Failure)

/-- The modules that can be loaded, by their names. -/
abbrev StepModules := List (Text × StepModule)

/-- The first check that an entry of a library fails. -/
inductive EntryFlaw where
  | form
  | verb (kind : Text)
  | pattern
  | action
deriving DecidableEq, Repr

/-- Why a module is no step library. -/
inductive LibraryFlaw where
  | notLoaded (failure : Failure)
  | noSteps
  | entry (position : Nat) (flaw : EntryFlaw)

/-- A module that is no step library. -/
structure LibraryFault where
  module : Text
  flaw : LibraryFlaw

namespace LibraryFault

/-- What is said about an entry after its position. -/
def entryReason : EntryFlaw → Text
  | .form => "is not a (verb, pattern, action) triple".toList
  | .verb kind => "verb must be a string, got ".toList ++ kind
  | .pattern => "pattern must be text or a compiled regex".toList
  | .action => "action is not callable".toList

/-- The reason why a module is no step library. -/
def reason (fault : LibraryFault) : Text :=
  match fault.flaw with
  | .notLoaded failure => failure.kind ++ ": ".toList ++ failure.message
  | .noSteps => "module has no STEPS attribute".toList
  | .entry position flaw =>
    "STEPS[".toList ++ Text.ofNat position ++ "] ".toList ++ entryReason flaw

/-- The message about a module that is no step library. -/
def message (fault : LibraryFault) : Text :=
  "Cannot load step library ".toList ++ fault.module.quoted ++ ": ".toList ++ fault.reason

end LibraryFault

/-- What loading a library ends in, if not in step definitions: a fault of the library, or a
failure that is passed on. -/
inductive LoadFailure where
  | fault (fault : LibraryFault)
  | failure (failure : Failure)

namespace Exposed

def kindName : Exposed → Text
  | value plain => plain.kindName
  | pattern _ => "Pattern".toList
  | action _ => "function".toList
  | list _ => "list".toList

/-- The full name of the kind of what is exposed. -/
def fullKindName : Exposed → Text
  | pattern _ => "re.Pattern".toList
  | other => other.kindName

/-- What is there to go through: the items of a list, the characters of a text, and the keys of a
record. -/
def entries? : Exposed → Option (List Exposed)
  | list items => some items
  | value (.list items) => some (items.map value)
  | value (.text content) => some (content.map fun c => value (.text [c]))
  | value (.record fields) => some (fields.map fun field => value (.text field.1))
  | _ => none

def isNull : Exposed → Bool
  | value .null => true
  | _ => false

/-- The parts of an entry, if it is a list of three. -/
def triple : Exposed → Except EntryFlaw (Exposed × Exposed × Exposed)
  | list [first, second, third] => .ok (first, second, third)
  | value (.list [first, second, third]) => .ok (value first, value second, value third)
  | _ => .error .form

def asVerb : Exposed → Except EntryFlaw Text
  | value (.text verb) => .ok verb
  | other => .error (.verb other.kindName)

/-- A text or a pattern, in the place of a pattern. -/
def asPattern : Exposed → Except EntryFlaw PatternSource
  | value (.text content) => .ok (.text content)
  | pattern ready => .ok (.ready ready)
  | _ => .error .pattern

def asAction : Exposed → Except EntryFlaw Action
  | action callable => .ok callable
  | _ => .error .action

def stepEntry (entry : Exposed) : Except EntryFlaw StepEntry := do
  let (first, second, third) ← entry.triple
  let verb ← first.asVerb
  let pattern ← second.asPattern
  let action ← third.asAction
  return ⟨verb, pattern, .action action⟩

end Exposed

namespace StepModules

/-- The failure that a module which is not there ends in. -/
def notFound (said : Text) : Failure :=
  .ofMessage "ModuleNotFoundError" ("No module named ".toList ++ said)

/-- The names of the modules that a module lies in, the outermost first, and its own. -/
def enclosing (name : Text) : List Text :=
  let parts := Text.splitAt '.' name
  (List.range parts.length).map fun count => Text.join ['.'] (parts.take (count + 1))

/-- Loads modules one inside the other, and gives what the innermost exposes.  No module has
others inside it. -/
def loadNested (modules : StepModules) (outer : Option Text) :
    List Text → Except Failure (Option Exposed)
  | [] => .ok none
  | name :: inner =>
    match outer, modules.lookup name with
    | some outer, _ =>
      .error (notFound (name.quoted ++ "; ".toList ++ outer.quoted ++
        " is not a package".toList))
    | none, none => .error (notFound name.quoted)
    | none, some (.failing failure) => .error failure
    | none, some (.exposing steps) =>
      if inner = [] then .ok steps else loadNested modules (some name) inner

def exposed (modules : StepModules) (name : Text) : Except Failure (Option Exposed) :=
  match name with
  | [] => .error (.ofText "ValueError" "Empty module name")
  | '.' :: _ => .error (.ofMessage "TypeError"
      ("the 'package' argument is required to perform a relative import for ".toList ++
        name.quoted))
  | _ => modules.loadNested none (enclosing name)

/-- The step definitions that entries are, counted from a position. -/
def checkEntries (module : Text) (position : Nat) :
    List Exposed → Except LibraryFault (List StepEntry)
  | [] => .ok []
  | entry :: rest =>
    match entry.stepEntry with
    | .error flaw => .error ⟨module, .entry position flaw⟩
    | .ok step => (checkEntries module (position + 1) rest).map (step :: ·)

/-- What the failure of loading the module of a name leads to.  Requests to leave the whole run are
passed on; every other failure is asked for its text. -/
def notLoaded (name : Text) (failure : Failure) : LoadFailure :=
  match failure.role, failure.wording with
  | .exit, _ => .failure failure
  | _, .error raised => .failure raised
  | _, .ok _ => .fault ⟨name, .notLoaded failure⟩

/-- The step definitions in the library of a name.  Besides the failures of loading that are passed
on, there is the failure of going through something that has no entries. -/
def loadSteps (modules : StepModules) (name : Text) : Except LoadFailure (List StepEntry) :=
  match modules.exposed name with
  | .error failure => .error (notLoaded name failure)
  | .ok none => .error (.fault ⟨name, .noSteps⟩)
  | .ok (some steps) =>
    if steps.isNull then .error (.fault ⟨name, .noSteps⟩)
    else
      match steps.entries? with
      | none => .error (.failure (.ofMessage "TypeError"
          (['\''] ++ steps.fullKindName ++ "' object is not iterable".toList)))
      | some entries => (checkEntries name 0 entries).mapError .fault

/-- The notice about a library that was loaded. -/
def loadedNotice (name : Text) (steps : List StepEntry) : Notice where
  level := .debug
  origin := "cukerun.core.steps_loader".toList
  message := "Loaded ".toList ++ Text.ofNat steps.length ++ " step definitions from ".toList ++
    name

end StepModules

end FeatureRunner
