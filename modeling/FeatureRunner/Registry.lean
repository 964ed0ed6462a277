import FeatureRunner.Action.Program
import FeatureRunner.Pattern.Basic

/-!
# The registry of step definitions

Definitions are kept in buckets by their verb in lower case.  A step is looked up first in the
bucket of its own verb and then in the bucket of the wildcard verb, and the first definition
whose pattern is found in the step text wins.
-/

namespace FeatureRunner

/-- The verb whose definitions are tried for every verb. -/
def wildcardVerb : Text := "step".toList

/-- What a step library offers as an action: an action, or something that cannot be called. -/
inductive Handler where
  | action (action : Action)
  | other (value : Value)

/-- A step definition as a step library writes it. -/
structure StepEntry where
  verb : Text
  pattern : PatternSource
  handler : Handler

/-- A registered step definition. -/
structure StepDefinition where
  verb : Text
  pattern : Pattern
  action : Action

/-- A step definition whose action cannot be called. -/
structure NotCallable where
  verb : Text
  pattern : PatternSource
deriving DecidableEq, Repr

/-- The message about an action that cannot be called. -/
def NotCallable.message (fault : NotCallable) : Text :=
  "Step action for ".toList ++ fault.verb ++ [' '] ++ fault.pattern.literal ++
    " is not callable".toList

/-- The buckets of definitions, in the order in which their verbs first came. -/
structure Registry where
  buckets : List (Text × List StepDefinition)

namespace Registry

def empty : Registry := ⟨[]⟩

/-- The definitions in the bucket of a lower-case verb. -/
def bucket : List (Text × List StepDefinition) → Text → List StepDefinition
  | [], _ => []
  | (verb, definitions) :: rest, wanted =>
    if verb = wanted then definitions else bucket rest wanted

/-- The buckets with one more definition at the end of its bucket. -/
def insert (definition : StepDefinition) :
    List (Text × List StepDefinition) → List (Text × List StepDefinition)
  | [] => [(definition.verb, [definition])]
  | (verb, definitions) :: rest =>
    if verb = definition.verb then (verb, definitions ++ [definition]) :: rest
    else (verb, definitions) :: insert definition rest

/-- The definition that an entry makes, if its action can be called. -/
def define (entry : StepEntry) : Except NotCallable StepDefinition :=
  match entry.handler with
  | .action action => .ok ⟨entry.verb.lower, entry.pattern.compile, action⟩
  | .other _ => .error ⟨entry.verb, entry.pattern⟩

def register (registry : Registry) (definition : StepDefinition) : Registry :=
  ⟨insert definition registry.buckets⟩

def add (registry : Registry) (entry : StepEntry) :
    Except NotCallable (Registry × StepDefinition) :=
  (define entry).map fun definition => (registry.register definition, definition)

/-- Adds entries up to the first whose action cannot be called: the registry afterwards, the
definitions that were added, and the fault. -/
def addAll (registry : Registry) :
    List StepEntry → Registry × List StepDefinition × Option NotCallable
  | [] => (registry, [], none)
  | entry :: rest =>
    match registry.add entry with
    | .error fault => (registry, [], some fault)
    | .ok (extended, definition) =>
      let (final, added, fault) := addAll extended rest
      (final, definition :: added, fault)

def definitions (registry : Registry) (verb : Text) : List StepDefinition :=
  bucket registry.buckets verb.lower

/-- The definitions to try for a verb, in order. -/
def candidates (registry : Registry) (verb : Text) : List StepDefinition :=
  let lowered := verb.lower
  registry.definitions lowered ++
    (if lowered = wildcardVerb then [] else registry.definitions wildcardVerb)

/-- The first of the definitions whose pattern is found in a text. -/
def firstMatch (text : Text) : List StepDefinition → Option (StepDefinition × PatternMatch)
  | [] => none
  | definition :: rest =>
    match definition.pattern.search text with
    | some found => some (definition, found)
    | none => firstMatch text rest

/-- The definition for a step, and how its pattern matches. -/
def find (registry : Registry) (verb text : Text) : Option (StepDefinition × PatternMatch) :=
  firstMatch text (registry.candidates verb)

def size (registry : Registry) : Nat :=
  registry.buckets.foldl (fun count bucket => count + bucket.2.length) 0

end Registry

end FeatureRunner
