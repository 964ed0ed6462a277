import FeatureRunner.Action.Program
import FeatureRunner.Value.Arithmetic

/-!
# Action scripts

A script is a list of instructions that an action carries out one after the other, until one of
them fails.
-/

namespace FeatureRunner

/-- What an action can look at. -/
inductive Sight where
  | text
  | verb
  | matched
  | data
  | stash (scope : StashScope)
  | argumentCount
  | stepText
  | line
deriving DecidableEq, Repr

/-- An instruction of a script. -/
inductive Instruction where
  | ok (passed : Value) (name : Value)
  | todo (name reason : Value)
  | diag (message : Value)
  | raise (failure : Failure)
  | set (scope : StashScope) (key : Text) (value : Value)
  | add (scope : StashScope) (key : Text) (amount : Value)
  | need (scope : StashScope) (key : Text)
  | addMatch (scope : StashScope) (key : Text) (index : Int)
  | okMatch (scope : StashScope) (key : Text) (index : Int) (name : Value)
  | failIfMatch (index : Int) (expected : Value) (message : Value)
  | push (value : Value)
  | put (key : Text) (value : Value)
  | finish
  | setText (content : Text)
  | see (sight : Sight)

namespace Sight

def word : Sight → Text
  | text => "text".toList
  | verb => "verb".toList
  | matched => "matches".toList
  | data => "data".toList
  | stash .feature => "feature".toList
  | stash .scenario => "scenario".toList
  | stash .step => "step".toList
  | stash .extra => "extra".toList
  | argumentCount => "nargs".toList
  | stepText => "step_text".toList
  | line => "line".toList

def op : Sight → ActionOp
  | text => .text
  | verb => .verb
  | matched => .matched
  | data => .data
  | stash scope => .stash scope
  | argumentCount => .argumentCount
  | stepText => .stepText
  | line => .stepLine

end Sight

/-- The item of a list at an index; negative indices count from the end. -/
def itemAt (items : List Value) (index : Int) : Except Failure Value :=
  let place := if index < 0 then index + items.length else index
  if place < 0 then .error .outOfRange
  else
    match items[place.toNat]? with
    | some item => .ok item
    | none => .error .outOfRange

namespace Value

/-- The name that an assertion gets from a value: none from a value that counts as false. -/
def asName (value : Value) : Text := if value.isTruthy then value.display else []

def push : Value → Value → Except Failure Value
  | list items, item => .ok (list (items ++ [item]))
  | other, _ => .error (.ofMessage "AttributeError"
      ("'".toList ++ other.kindName ++ "' object has no attribute 'append'".toList))

def putField : Value → Text → Value → Except Failure Value
  | record fields, key, value => .ok (record (Record.put fields key value))
  | list _, _, _ => .error (.ofText "TypeError"
      "list indices must be integers or slices, not str")
  | other, _, _ => .error (.ofMessage "TypeError"
      ("'".toList ++ other.kindName ++ "' object does not support item assignment".toList))

/-- The text of a match group, which is missing if the group took no part. -/
def groupText? : Value → Option Text
  | text content => some content
  | _ => none

/-- Whether a match group has exactly the given value. -/
def isGroup (expected : Value) (group : Option Text) : Bool :=
  match expected, group with
  | text content, some found => content = found
  | null, none => true
  | _, _ => false

end Value

namespace Instruction

open ActionProgram

/-- Goes on with the value under a key, or fails if the key is missing. -/
def withKey (scope : StashScope) (key : Text) (next : Value → ActionProgram) :
    ActionProgram :=
  andThen (.stash scope) fun stash =>
    match Record.get? stash.fields key with
    | some value => next value
    | none => fail (.missingKey key)

def withGroup (index : Int) (next : Option Text → ActionProgram) : ActionProgram :=
  andThen .matched fun groups =>
    attempt (itemAt groups.items index) fun group => next group.groupText?

/-- Goes on with the whole number that the group at an index writes. -/
def withGroupNumber (index : Int) (next : Int → ActionProgram) : ActionProgram :=
  withGroup index fun group => attempt (Value.wholeNumberOf group) next

/-- Goes on with the text of a value, or fails if the value cannot be shown. -/
def withShown (value : Value) (next : Text → ActionProgram) : ActionProgram :=
  attempt (value.shown.mapError .ofShowFlaw) next

/-- Goes on with the name that an assertion gets from a value, or fails if the value cannot be
shown. -/
def withName (value : Value) (next : Text → ActionProgram) : ActionProgram :=
  withShown value fun _ => next value.asName

/-- The program of an instruction, followed by another program. -/
def program (next : ActionProgram) : Instruction → ActionProgram
  | ok passed name =>
    withName name fun name => andThen (.ok passed.isTruthy name) fun _ => next
  | todo name reason =>
    withShown name fun name =>
      withShown reason fun reason => andThen (.todo name reason) fun _ => next
  | diag message => withShown message fun message => andThen (.diag message) fun _ => next
  | raise failure => fail failure
  | set scope key value => andThen (.remember scope key value) fun _ => next
  | add scope key amount =>
    andThen (.stash scope) fun stash =>
      attempt (((Record.get? stash.fields key).getD (.int 0)).add amount) fun sum =>
        andThen (.remember scope key sum) fun _ => next
  | need scope key => withKey scope key fun _ => next
  | addMatch scope key index =>
    andThen (.stash scope) fun stash =>
      withGroupNumber index fun number =>
        attempt (((Record.get? stash.fields key).getD (.int 0)).add (.int number)) fun sum =>
          andThen (.remember scope key sum) fun _ => next
  | okMatch scope key index name =>
    withKey scope key fun value =>
      withGroupNumber index fun number =>
        withName name fun name =>
          andThen (.ok (value.asInt? == some number) name) fun _ => next
  | failIfMatch index expected message =>
    withGroup index fun group =>
      if expected.isGroup group then fail (.error "AssertionError".toList (some message))
      else next
  | push value =>
    andThen .data fun data =>
      attempt (data.push value) fun changed => andThen (.setData changed) fun _ => next
  | put key value =>
    andThen .data fun data =>
      attempt (data.putField key value) fun changed =>
        andThen (.setData changed) fun _ => next
  | finish => andThen .finish fun _ => next
  | setText content => andThen (.setText content) fun _ => next
  | see sight => andThen sight.op fun value => andThen (.note sight.word value) fun _ => next

end Instruction

/-- The program that carries out the instructions of a script in order. -/
def scriptProgram : List Instruction → ActionProgram
  | [] => .done
  | instruction :: rest => instruction.program (scriptProgram rest)

end FeatureRunner
