import FeatureRunner.Action.Program
import FeatureRunner.Proofs.Text.LineBreaks
import Mathlib.Data.List.Induction
import Mathlib.Data.List.TakeWhile

/-!
# What calls leave in a recorder

A recorder is called to check something, to leave a task open, to note a text, and to write the
plan.  What it then holds can be told from the list of these calls alone: the assertions ahead of
the first plan are the accepted ones, each call contributes its entries, and assertions after the
plan are refused and leave no trace.
-/

namespace FeatureRunner

inductive RecorderCall where
  | ok (passed : Value) (name : Text)
  | todo (name reason : Text)
  | diag (message : Text)
  | finish

namespace RecorderCall

/-- What a call is replied if it is accepted: a check tells whether its value counts as true. -/
def reply : RecorderCall → Value
  | ok passed _ => .bool passed.isTruthy
  | _ => .null

/-- The recorder after a call, unless the call is refused. -/
def change (recorder : Recorder) : RecorderCall → Option Recorder
  | ok passed name => recorder.ok? passed.isTruthy name
  | todo name reason => recorder.todo? name reason
  | diag message => some (recorder.diag message)
  | finish => some recorder.finish

def op : RecorderCall → ActionOp
  | ok passed name => .ok passed.isTruthy name
  | todo name reason => .todo name reason
  | diag message => .diag message
  | finish => .finish

end RecorderCall

namespace Recorder

def closedFailure : Failure := .ofMessage "RuntimeError" closedMessage

/-- Answers a call: the reply or the failure, and the recorder afterwards. -/
def answer (recorder : Recorder) (call : RecorderCall) : Except Failure Value × Recorder :=
  match call.change recorder with
  | some changed => (.ok call.reply, changed)
  | none => (.error closedFailure, recorder)

def after (calls : List RecorderCall) : Recorder :=
  calls.foldl (fun recorder call => (recorder.answer call).2) empty

theorem after_append (before : List RecorderCall) (call : RecorderCall) :
    after (before ++ [call]) = ((after before).answer call).2 := by
  rw [after, List.foldl_append]
  rfl

end Recorder

/-- An action that makes a call gets the answer of the recorder in its context. -/
theorem ActionOp.run_recorderCall (call : RecorderCall) (extra : Bool) {state : ActionState}
    {recorder : Recorder} (has : state.context.recorder = some recorder) :
    call.op.run extra state =
      ((recorder.answer call).1,
        { state with context :=
          { state.context with recorder := some (recorder.answer call).2 } }) := by
  have asserted : call.op.run extra state = state.assert call.reply (call.change ·) := by
    cases call <;> rfl
  rw [asserted, ActionState.assert, has, Recorder.answer]
  dsimp only
  cases changed : call.change recorder with
  | some changed => rfl
  | none =>
      -- The recorder of the context stays the one that it was.
      dsimp only
      rw [← has]
      rfl

namespace RecorderCall

def isFinish : RecorderCall → Bool
  | finish => true
  | _ => false

def isPassed : RecorderCall → Bool
  | ok passed _ => passed.isTruthy
  | _ => false

def isFailed : RecorderCall → Bool
  | ok passed _ => !passed.isTruthy
  | _ => false

def isTodo : RecorderCall → Bool
  | todo _ _ => true
  | _ => false

def isAssertion (call : RecorderCall) : Bool := call.isPassed || call.isFailed || call.isTodo

@[simp]
theorem isAssertion_ok (passed : Value) (name : Text) : (ok passed name).isAssertion = true := by
  cases truth : passed.isTruthy <;> simp [isAssertion, isPassed, isFailed, truth]

@[simp]
theorem isAssertion_todo (name reason : Text) : (todo name reason).isAssertion = true := rfl

@[simp]
theorem isAssertion_diag (message : Text) : (diag message).isAssertion = false := rfl

@[simp]
theorem isAssertion_finish : finish.isAssertion = false := rfl

def planned (calls : List RecorderCall) : Bool := calls.any isFinish

/-- The assertions that are accepted: those ahead of the first plan. -/
def accepted (calls : List RecorderCall) : List RecorderCall :=
  (calls.takeWhile fun call => !call.isFinish).filter isAssertion

def planLine (count : Nat) : Text := "1..".toList ++ Text.ofNat count

def isPlanLine (line : Text) : Bool := "1..".toList.isPrefixOf line

/-- The comment with a line of a noted text. -/
def commentLine (line : Text) : Text := '#' :: Text.stripRight (' ' :: line)

/-- The entries that a call contributes, after some earlier calls. -/
def entries (before : List RecorderCall) : RecorderCall → List Text
  | ok passed name =>
    if planned before then []
    else
      [(if passed.isTruthy then "ok ".toList else "not ok ".toList) ++
        Text.ofNat ((accepted before).length + 1) ++
        if name = [] then [] else " - ".toList ++ name]
  | todo name reason =>
    if planned before then []
    else
      ["not ok ".toList ++ Text.ofNat ((accepted before).length + 1) ++ " - ".toList ++ name ++
        " # TODO".toList ++ Text.stripRight (' ' :: reason)]
  | diag message => (if message = [] then [[]] else Text.lines message).map commentLine
  | finish => if planned before then [] else [planLine (accepted before).length]

def entriesFrom (before : List RecorderCall) : List RecorderCall → List Text
  | [] => []
  | call :: later => entries before call ++ entriesFrom (before ++ [call]) later

def entriesOf (calls : List RecorderCall) : List Text := entriesFrom [] calls

theorem entriesFrom_append (before calls : List RecorderCall) (call : RecorderCall) :
    entriesFrom before (calls ++ [call]) =
      entriesFrom before calls ++ entries (before ++ calls) call := by
  induction calls generalizing before with
  | nil => simp [entriesFrom]
  | cons first later ih =>
      rw [List.cons_append, entriesFrom, ih, entriesFrom, List.append_assoc, List.append_assoc,
        List.singleton_append]

theorem entriesOf_append (before : List RecorderCall) (call : RecorderCall) :
    entriesOf (before ++ [call]) = entriesOf before ++ entries before call :=
  entriesFrom_append [] before call

@[simp]
theorem planned_append (before : List RecorderCall) (call : RecorderCall) :
    planned (before ++ [call]) = (planned before || call.isFinish) := by
  simp [planned]

theorem accepted_append_of_planned {before : List RecorderCall} (closed : planned before = true)
    (call : RecorderCall) : accepted (before ++ [call]) = accepted before := by
  have same : (before ++ [call]).takeWhile (fun call => !call.isFinish) =
      before.takeWhile fun call => !call.isFinish := by
    induction before with
    | nil => cases closed
    | cons first later ih =>
        rw [List.cons_append, List.takeWhile_cons, List.takeWhile_cons]
        cases ends : first.isFinish with
        | true => rfl
        | false =>
            have laterCloses : planned later = true := by simpa [planned, ends] using closed
            rw [ih laterCloses]
  rw [accepted, same, accepted]

theorem accepted_append_of_open {before : List RecorderCall} (isOpen : planned before = false)
    (call : RecorderCall) :
    accepted (before ++ [call]) = accepted before ++ [call].filter isAssertion := by
  have unended : ∀ earlier ∈ before, (!earlier.isFinish) = true := by
    simpa [planned] using isOpen
  have unstopped : before.takeWhile (fun call => !call.isFinish) = before :=
    List.takeWhile_eq_self_iff.mpr unended
  rw [accepted, accepted, unstopped, List.takeWhile_append_of_pos unended, List.filter_append]
  cases call <;> rfl

def outcome? : RecorderCall → Option Outcome
  | ok passed name => some ⟨if passed.isTruthy then .pass else .fail, name⟩
  | todo name _ => some ⟨.todo, name⟩
  | diag _ => none
  | finish => none

theorem isSome_outcome? (call : RecorderCall) : call.outcome?.isSome = call.isAssertion := by
  cases call with
  | ok passed name => rw [isAssertion_ok]; rfl
  | todo | diag | finish => rfl

theorem length_filterMap_accepted (calls : List RecorderCall) :
    ((accepted calls).filterMap outcome?).length = (accepted calls).length := by
  rw [List.length_filterMap_eq_countP, List.countP_eq_length]
  intro call member
  rw [isSome_outcome?]
  exact (List.mem_filter.mp member).2

/-- What a recorder holds after calls, told from the calls alone. -/
def recorderOf (calls : List RecorderCall) : Recorder :=
  ⟨(accepted calls).filterMap outcome?, entriesOf calls, planned calls⟩

theorem filterMap_filter_singleton (call : RecorderCall) :
    ([call].filter isAssertion).filterMap outcome? = call.outcome?.toList := by
  rw [List.filter_cons, List.filter_nil, ← isSome_outcome?]
  cases outcome : call.outcome? with
  | none => rfl
  | some found => simp [outcome]

theorem recorderOf_append_of_open {before : List RecorderCall} (isOpen : planned before = false)
    (call : RecorderCall) :
    recorderOf (before ++ [call]) =
      ⟨(recorderOf before).outcomes ++ call.outcome?.toList,
        (recorderOf before).lines ++ entries before call, call.isFinish⟩ := by
  rw [recorderOf, accepted_append_of_open isOpen, List.filterMap_append,
    filterMap_filter_singleton, entriesOf_append, planned_append, isOpen, Bool.false_or]
  rfl

theorem recorderOf_append_of_planned {before : List RecorderCall} (closed : planned before = true)
    (call : RecorderCall) :
    recorderOf (before ++ [call]) =
      { recorderOf before with lines := (recorderOf before).lines ++ entries before call } := by
  rw [recorderOf, accepted_append_of_planned closed, entriesOf_append, planned_append, closed,
    Bool.true_or]
  simp [recorderOf, closed]

theorem nextNumber_recorderOf (before : List RecorderCall) :
    (recorderOf before).nextNumber = (accepted before).length + 1 :=
  congrArg (· + 1) (length_filterMap_accepted before)

theorem commentLines_eq (message : Text) :
    Recorder.commentLines message =
      (if message = [] then [[]] else Text.lines message).map commentLine := by
  have comment (line : Text) : Text.stripRight ("# ".toList ++ line) = commentLine line :=
    Text.stripRight_append_cons (by decide) [] (' ' :: line)
  simp only [Recorder.commentLines, comment, Text.lines_eq_nil_iff]

theorem todoLine_eq (number name reason : Text) :
    Text.stripRight ("not ok ".toList ++ number ++ " - ".toList ++ name ++ " # TODO ".toList ++
      reason) =
      "not ok ".toList ++ number ++ " - ".toList ++ name ++ " # TODO".toList ++
        Text.stripRight (' ' :: reason) := by
  -- The word that marks an open task ends in no blank character, so trimming stops there.
  have trimmed := Text.stripRight_append_cons (c := 'O') (by decide)
    ("not ok ".toList ++ number ++ " - ".toList ++ name ++ " # TOD".toList) (' ' :: reason)
  simpa [List.append_assoc] using trimmed

/-- Ahead of the plan every call is accepted. -/
theorem change_of_open {before : List RecorderCall} (isOpen : planned before = false)
    (call : RecorderCall) :
    call.change (recorderOf before) = some (recorderOf (before ++ [call])) := by
  have undone : (recorderOf before).done = false := isOpen
  have unplanned : ¬ planned before = true := Bool.eq_false_iff.mp isOpen
  rw [recorderOf_append_of_open isOpen]
  cases call with
  | ok passed name =>
      rw [change, Recorder.ok?_eq, Recorder.record?_of_open undone, nextNumber_recorderOf, entries,
        if_neg unplanned, List.append_assoc]
      rfl
  | todo name reason =>
      rw [change, Recorder.todo?, todoLine_eq, Recorder.record?_of_open undone,
        nextNumber_recorderOf, entries, if_neg unplanned]
      rfl
  | diag message =>
      rw [change, Recorder.diag, commentLines_eq, undone, entries,
        show (diag message).outcome?.toList = [] from rfl, List.append_nil]
      rfl
  | finish =>
      have count : (recorderOf before).outcomes.length = (accepted before).length :=
        length_filterMap_accepted before
      rw [change, Recorder.finish, undone, count, entries, if_neg unplanned]
      simp [outcome?, isFinish, planLine]

/-- After the plan, assertions are refused, and of the other calls only noted texts add lines. -/
theorem change_of_planned {before : List RecorderCall} (closed : planned before = true)
    (call : RecorderCall) :
    call.change (recorderOf before) =
      if call.isAssertion then none else some (recorderOf (before ++ [call])) := by
  have done : (recorderOf before).done = true := closed
  rw [recorderOf_append_of_planned closed]
  cases call with
  | ok passed name =>
      rw [change, Recorder.ok?_eq, Recorder.record?_of_done done, isAssertion_ok, if_pos rfl]
  | todo name reason =>
      rw [change, Recorder.todo?, Recorder.record?_of_done done, isAssertion_todo, if_pos rfl]
  | diag message => simp [change, Recorder.diag, commentLines_eq, entries]
  | finish =>
      rw [change, Recorder.finish, if_pos done, entries, if_pos closed, List.append_nil]
      rfl

/-- One call more changes what a recorder holds as the history tells it, and it is replied exactly
if it is no assertion after the plan. -/
theorem answer_recorderOf (before : List RecorderCall) (call : RecorderCall) :
    (recorderOf before).answer call =
      (if call.isAssertion ∧ planned before then .error Recorder.closedFailure
        else .ok call.reply, recorderOf (before ++ [call])) := by
  rw [Recorder.answer]
  cases closed : planned before with
  | false => simp [change_of_open closed]
  | true =>
      rw [change_of_planned closed]
      -- A refused assertion leaves the recorder as it is, and also has no entry in the history.
      cases asserts : call.isAssertion with
      | false => simp
      | true =>
          have traceless : entries before call = [] := by
            cases call with
            | ok passed name | todo name reason => rw [entries, if_pos closed]
            | diag | finish => cases asserts
          simp [recorderOf_append_of_planned closed, traceless]

/-- What a recorder holds after calls is what their history tells. -/
theorem after_eq_recorderOf (calls : List RecorderCall) :
    Recorder.after calls = recorderOf calls := by
  induction calls using List.reverseRecOn with
  | nil => rfl
  | append_singleton before call ih => rw [Recorder.after_append, ih, answer_recorderOf]

@[simp]
theorem isPlanLine_planLine (count : Nat) : isPlanLine (planLine count) = true :=
  List.isPrefixOf_iff_prefix.mpr (List.prefix_append _ _)

/-- Only the call that writes the plan contributes an entry that reads as one. -/
theorem filter_isPlanLine_entries (before : List RecorderCall) (call : RecorderCall) :
    (entries before call).filter isPlanLine =
      if call.isFinish ∧ planned before = false then [planLine (accepted before).length]
      else [] := by
  cases call with
  | ok passed name =>
      rw [entries]
      split
      · rfl
      · cases passed.isTruthy <;> rfl
  | todo name reason =>
      rw [entries]
      split <;> rfl
  | diag message =>
      have unended : ¬ ((diag message).isFinish = true ∧ planned before = false) := by
        rintro ⟨⟨⟩, -⟩
      rw [if_neg unended, entries, List.filter_eq_nil_iff]
      intro entry member
      obtain ⟨line, -, rfl⟩ := List.mem_map.mp member
      exact Bool.false_ne_true
  | finish =>
      rw [entries]
      cases planned before <;> simp [isFinish]

/-- The plan is written at most once, for the number of accepted assertions. -/
theorem filter_isPlanLine_entriesOf (calls : List RecorderCall) :
    (entriesOf calls).filter isPlanLine =
      if planned calls then [planLine (accepted calls).length] else [] := by
  induction calls using List.reverseRecOn with
  | nil => rfl
  | append_singleton before call ih =>
      rw [entriesOf_append, List.filter_append, ih, filter_isPlanLine_entries, planned_append]
      cases closed : planned before with
      | true => simp [accepted_append_of_planned closed]
      | false =>
          cases call with
          | finish => simp [accepted_append_of_open closed, isFinish]
          | ok | todo | diag => simp [isFinish]

theorem countP_outcomes (calls : List RecorderCall) (kind : OutcomeKind)
    {counted : RecorderCall → Bool}
    (counts : ∀ call, call.outcome?.any (·.kind = kind) = counted call) :
    (calls.filterMap outcome?).countP (·.kind = kind) = calls.countP counted := by
  rw [List.countP_filterMap]
  congr 1
  funext call
  rw [← counts call]
  cases call.outcome? <;> rfl

/-- A recorder counts the accepted assertions of each sort. -/
theorem summary_recorderOf (calls : List RecorderCall) :
    (recorderOf calls).summary =
      ⟨(accepted calls).countP isPassed, (accepted calls).countP isFailed,
        (accepted calls).countP isTodo⟩ := by
  have passed (call : RecorderCall) : call.outcome?.any (·.kind = .pass) = call.isPassed := by
    cases call with
    | ok passed name => cases truth : passed.isTruthy <;> simp [outcome?, isPassed, truth]
    | todo | diag | finish => rfl
  have failed (call : RecorderCall) : call.outcome?.any (·.kind = .fail) = call.isFailed := by
    cases call with
    | ok passed name => cases truth : passed.isTruthy <;> simp [outcome?, isFailed, truth]
    | todo | diag | finish => rfl
  have todo (call : RecorderCall) : call.outcome?.any (·.kind = .todo) = call.isTodo := by
    cases call with
    | ok passed name => cases truth : passed.isTruthy <;> simp [outcome?, isTodo, truth]
    | todo | diag | finish => rfl
  simp only [Recorder.summary, Recorder.count, recorderOf, countP_outcomes _ _ passed,
    countP_outcomes _ _ failed, countP_outcomes _ _ todo]

theorem countP_isAssertion (calls : List RecorderCall) :
    calls.countP isPassed + calls.countP isFailed + calls.countP isTodo =
      calls.countP isAssertion := by
  induction calls with
  | nil => rfl
  | cons call later ih =>
      simp only [List.countP_cons, ← ih]
      cases call with
      | ok passed name =>
          cases truth : passed.isTruthy <;> simp [isPassed, isFailed, isTodo, truth] <;> omega
      | todo | diag | finish => simp [isPassed, isFailed, isTodo] <;> omega

theorem length_accepted (calls : List RecorderCall) :
    (accepted calls).length =
      (recorderOf calls).summary.passed + (recorderOf calls).summary.failed +
        (recorderOf calls).summary.todo := by
  rw [summary_recorderOf, countP_isAssertion, eq_comm, List.countP_eq_length]
  intro call member
  exact (List.mem_filter.mp member).2

/-- A comment begins with a hash sign and is a single line. -/
theorem commentLine_unbroken {line : Text} (unbroken : ∀ c ∈ line, isLineBreak c = false) :
    (commentLine line).head? = some '#' ∧ ∀ c ∈ commentLine line, isLineBreak c = false := by
  refine ⟨rfl, List.forall_mem_cons.mpr ⟨by decide, fun c member => ?_⟩⟩
  rcases List.mem_cons.mp (Text.mem_of_mem_stripRight member) with rfl | inLine
  · decide
  · exact unbroken c inLine

end RecorderCall

namespace Recorder

open RecorderCall

/-- What calls leave in a new recorder.  The output has their entries in order, each ended by a line
feed, and the counts are those of the accepted assertions.  One entry reads as a plan if the plan
was written, and none otherwise; it tells the sum of the counts.  Whatever comes next is replied as
it would be at any time, unless it is an assertion after the plan, which fails and changes
nothing.  A text that is noted next gives a comment for each of its lines, or an empty one. -/
structure RecordsCalls (calls : List RecorderCall) : Prop where
  output : (after calls).output = (entriesOf calls).flatMap (· ++ ['\n'])
  summary : (after calls).summary =
    ⟨(accepted calls).countP isPassed, (accepted calls).countP isFailed,
      (accepted calls).countP isTodo⟩
  plan : (entriesOf calls).filter isPlanLine =
    if planned calls then
      [planLine ((after calls).summary.passed + (after calls).summary.failed +
        (after calls).summary.todo)]
    else []
  reply : ∀ call, ((after calls).answer call).1 =
    if call.isAssertion ∧ planned calls then .error closedFailure else .ok call.reply
  refused : ∀ call, call.isAssertion → planned calls →
    ((after calls).answer call).2 = after calls
  comments : ∀ message, ∃ lines, (∀ parts, Text.CutInto message parts ↔ parts = lines) ∧
    entries calls (.diag message) =
      (if message = [] then [[]] else lines).map commentLine ∧
    ∀ entry ∈ entries calls (.diag message),
      entry.head? = some '#' ∧ ∀ c ∈ entry, isLineBreak c = false

/-- A recorder does as its calls tell: for all calls in any order, those after the plan included. -/
theorem after_recordsCalls (calls : List RecorderCall) : RecordsCalls calls where
  output := by
    rw [after_eq_recorderOf]
    rfl
  summary := by rw [after_eq_recorderOf, summary_recorderOf]
  plan := by rw [filter_isPlanLine_entriesOf, length_accepted, after_eq_recorderOf]
  reply call := by rw [after_eq_recorderOf, answer_recorderOf]
  refused call asserts closed := by
    rw [after_eq_recorderOf, answer, change_of_planned closed, if_pos asserts]
  comments message := by
    refine ⟨Text.lines message, fun _ => Text.cutInto_iff, rfl, ?_⟩
    intro entry member
    obtain ⟨line, isLine, rfl⟩ := List.mem_map.mp member
    apply commentLine_unbroken
    split at isLine
    · -- The empty text gives one line without a character.
      rw [List.mem_singleton.mp isLine]
      simp
    · exact Text.not_isLineBreak_of_mem_lines isLine

end Recorder

end FeatureRunner
