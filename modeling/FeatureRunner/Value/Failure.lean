import FeatureRunner.Value.Display

/-!
# Failures

What ends a computation early: a step marked as pending, an ordinary error, or a request to
leave that nothing below the command line may hold up.  Errors and exits have a kind, known by
its name, and at most one detail.

Whoever wants to tell a failure asks it for its text, and this may fail in its turn: a detail can be
a value that cannot be shown, and a kind of failure can make its text in a way of its own.
-/

namespace FeatureRunner

/-- What ends an action early.  A speechless failure is an error, or the mark of a pending step, of
a kind whose text cannot be made: asking for the text raises another failure. -/
inductive Failure where
  | pending (reason : Option Value)
  | error (kind : Text) (detail : Option Value)
  | exit (kind : Text) (detail : Option Value)
  | speechless (pends : Bool) (kind : Text) (raised : Failure)

/-- What a failure means to those that it passes. -/
inductive FailureRole where
  | pending
  | error
  | exit
deriving DecidableEq, Repr

namespace Failure

/-- An error of the given kind with a text as its detail. -/
def ofText (kind message : String) : Failure :=
  error kind.toList (some (.text message.toList))

/-- An error of the given kind with a text as its detail. -/
def ofMessage (kind : String) (message : Text) : Failure :=
  error kind.toList (some (.text message))

def missingKey (key : Text) : Failure := error "KeyError".toList (some (.text key))

def outOfRange : Failure := ofText "IndexError" "list index out of range"

/-- The failure of showing a value. -/
def ofShowFlaw (flaw : ShowFlaw) : Failure :=
  let kind :=
    match flaw with
    | .longNumber => "ValueError"
    | .tooDeep => "RecursionError"
  ofMessage kind flaw.message

def exitKinds : List Text :=
  ["KeyboardInterrupt", "SystemExit", "GeneratorExit", "BaseException"].map String.toList

def kindAliases : List (Text × Text) :=
  [("IOError".toList, "OSError".toList), ("EnvironmentError".toList, "OSError".toList)]

/-- Kinds that cannot be made from at most one detail: the maker that a refusal names, and how many
details it takes. -/
def manyDetailKinds : List (Text × Text × Nat) :=
  [("UnicodeDecodeError".toList, "function".toList, 5),
    ("UnicodeEncodeError".toList, "function".toList, 5),
    ("UnicodeTranslateError".toList, "function".toList, 4),
    ("BaseExceptionGroup".toList, "BaseExceptionGroup.__new__()".toList, 2),
    ("ExceptionGroup".toList, "BaseExceptionGroup.__new__()".toList, 2)]

/-- The failure of a kind given by name.  The names of exits make exits.  A kind that takes more
details gives the error of making it instead. -/
def ofKind (name : Text) (detail : Option Value) : Failure :=
  let kind := (kindAliases.lookup name).getD name
  match manyDetailKinds.lookup kind with
  | some (maker, count) =>
    ofMessage "TypeError" (maker ++ " takes exactly ".toList ++ Text.ofNat count ++
      " arguments (".toList ++ Text.ofNat detail.toList.length ++ " given)".toList)
  | none => if kind ∈ exitKinds then exit kind detail else error kind detail

/-- The kinds that describe a fault in a text of code. -/
def codeFaultKinds : List Text :=
  ["SyntaxError", "IndentationError", "TabError"].map String.toList

def role : Failure → FailureRole
  | pending _ => .pending
  | error _ _ => .error
  | exit _ _ => .exit
  | speechless pends _ _ => if pends then .pending else .error

def kind : Failure → Text
  | pending _ => "PendingStep".toList
  | error kind _ => kind
  | exit kind _ => kind
  | speechless _ kind _ => kind

def detail : Failure → Option Value
  | pending reason => reason
  | error _ detail => detail
  | exit _ detail => detail
  | speechless _ _ _ => none

/-- The text of a failure, or the failure that asking for it raises.  The text is the detail, which
a missing key shows as a literal. -/
def wording (failure : Failure) : Except Failure Text :=
  match failure with
  | speechless _ _ raised => .error raised
  | _ =>
    match failure.detail with
    | some value =>
      match value.showFlaw? Value.showLimit with
      | some flaw => .error (ofShowFlaw flaw)
      | none => .ok (if failure.kind = "KeyError".toList then value.literal else value.display)
    | none => .ok (if failure.kind ∈ codeFaultKinds then "None".toList else [])

/-- The text of a failure as its trace tells it, whether or not it can be made. -/
def message (failure : Failure) : Text :=
  match failure.wording with
  | .ok words => words
  | .error _ => "<exception str() failed>".toList

/-- The failure as an expression that would make it. -/
def literal (failure : Failure) : Text :=
  failure.kind ++ '(' :: ((failure.detail.map Value.literal).getD []) ++ [')']

/-- What the last line of a failure's trace tells after the kind.  A fault in code whose detail does
not count as true is shown as one without detail; its detail is not guarded by anything. -/
def remark (failure : Failure) : Except Failure Text :=
  match failure with
  | error kind detail =>
    if kind ∈ codeFaultKinds then
      match detail.filter Value.isTruthy with
      | none => .ok "<no detail available>".toList
      | some value => value.shown.mapError ofShowFlaw
    else .ok failure.message
  | _ => .ok failure.message

/-- The last line of a failure's trace: the kind, and the remark unless it is empty. -/
def headline (failure : Failure) : Except Failure Text :=
  failure.remark.map fun remark =>
    if remark = [] then failure.kind else failure.kind ++ ": ".toList ++ remark

/-- The trace of a failure, without the places it passed. -/
def trace (failure : Failure) : Except Failure Text :=
  failure.headline.map ("Traceback (most recent call last):\n".toList ++ ·)

end Failure

end FeatureRunner
