import FeatureRunner.Proofs.Recorder.Calls
import FeatureRunner.Proofs.Text.Numerals
import FeatureRunner.Proofs.Text.Parts
import Mathlib.Data.List.Infix
import Mathlib.Data.List.Perm.Basic

/-!
# The line format of an output

Whoever reads an output reads it line by line: a test line tells an assertion, a line that begins
with a hash sign is a comment, and one line is the plan.  The lines tell the recorded assertions if
there is nothing else among them, if the test lines are numbered in order, and if each reads as the
assertion turned out.

The entries of a recorder are such lines, but the names and reasons in them are written as they
are given.  This file proves that the lines of the output tell the recorded assertions exactly if
no name and no reason breaks its line other than into comments, or carries a marker that its test
line must not have.
-/

namespace FeatureRunner

namespace OutputLine

/-- What marks a test line as an open task. -/
def todoMarker : Text := "# TODO".toList

def isTest (line : Text) : Bool :=
  "ok ".toList.isPrefixOf line || "not ok ".toList.isPrefixOf line

def isComment (line : Text) : Bool := line.head? = some '#'

def isMarked (line : Text) : Bool := todoMarker <:+: line

/-- How an assertion turned out, as its test line reads. -/
def reading (line : Text) : OutcomeKind :=
  if isMarked line then .todo else if "ok ".toList.isPrefixOf line then .pass else .fail

/-- A test line has a number if the number follows its first words, and nothing or a space follows
the number. -/
def HasNumber (number : Nat) (line : Text) : Prop :=
  ∃ lead ∈ ["ok ".toList, "not ok ".toList], ∃ tail,
    line = lead ++ Text.ofNat number ++ tail ∧ (tail = [] ∨ tail.head? = some ' ')

end OutputLine

open OutputLine RecorderCall

/-- Lines tell assertions of certain kinds: each line is a test line, a comment or the plan, there
is one plan, and the test lines are numbered from one and read as the assertions in order. -/
structure TellsOutcomes (lines : List Text) (kinds : List OutcomeKind) : Prop where
  sorts : ∀ line ∈ lines,
    isTest line = true ∨ isComment line = true ∨ line = planLine kinds.length
  plan : lines.count (planLine kinds.length) = 1
  numbers : ∀ place line, (lines.filter isTest)[place]? = some line → HasNumber (place + 1) line
  readings : (lines.filter isTest).map reading = kinds

/-- An output keeps its line format: it is a single line that says that the step never ran, or
lines, each ended by a line feed, that tell the assertions. -/
def KeepsFormat (output : Text) (kinds : List OutcomeKind) : Prop :=
  (Result.skipMarker <+: output ∧ Text.splitAt '\n' output = [output]) ∨
    ∃ lines, Text.splitAt '\n' output = lines ++ [[]] ∧ TellsOutcomes lines kinds

namespace OutputLine

theorem not_isComment_of_isTest {line : Text} (test : isTest line = true) :
    isComment line = false := by
  rcases line with _ | ⟨c, rest⟩
  · rfl
  · by_cases hash : c = '#'
    · subst hash
      cases test
    · simpa [isComment] using hash

theorem not_isTest_of_isPlanLine {line : Text} (plan : isPlanLine line = true) :
    isTest line = false := by
  obtain ⟨rest, rfl⟩ := List.isPrefixOf_iff_prefix.mp plan
  rfl

theorem not_isTest_planLine (count : Nat) : isTest (planLine count) = false := rfl

theorem not_isComment_planLine (count : Nat) : isComment (planLine count) = false := rfl

theorem unbroken_planLine (count : Nat) : '\n' ∉ planLine count := by
  intro broken
  rcases List.mem_append.mp broken with inDots | inNumber
  · revert inDots
    decide
  · exact Text.not_mem_ofNat (by decide) count inNumber

theorem isTest_firstPart (line : Text) : isTest (Text.firstPart '\n' line) = isTest line := by
  have begins {front : Text} (unbroken : '\n' ∉ front) :
      front.isPrefixOf (Text.firstPart '\n' line) = front.isPrefixOf line := by
    rw [Bool.eq_iff_iff, List.isPrefixOf_iff_prefix, List.isPrefixOf_iff_prefix,
      Text.prefix_firstPart_iff unbroken]
  rw [isTest, isTest, begins (by decide), begins (by decide)]

/-- A front without a hash sign takes no part in a marker. -/
theorem isMarked_append {front : Text} (hashless : '#' ∉ front) (text : Text) :
    isMarked (front ++ text) = isMarked text := by
  induction front with
  | nil => rfl
  | cons c front ih =>
      obtain ⟨other, others⟩ := not_or.mp (List.mem_cons.not.mp hashless)
      rw [← ih others, isMarked, isMarked, decide_eq_decide, List.cons_append,
        List.infix_cons_iff, or_iff_right_iff_imp]
      -- A marker that begins here would begin with a hash sign.
      intro begins
      exact absurd (List.cons_prefix_cons.mp begins).1 other

/-- The lines that count: the test lines and the plan are the ones that are no comments. -/
theorem countP_not_isComment {lines : List Text} {count : Nat}
    (sorts : ∀ line ∈ lines, isTest line = true ∨ isComment line = true ∨ line = planLine count)
    (plan : lines.count (planLine count) = 1) :
    lines.countP (!isComment ·) = (lines.filter isTest).length + 1 := by
  have tests : (lines.filter isTest).countP (!isComment ·) = (lines.filter isTest).length := by
    rw [List.countP_eq_length]
    intro line member
    rw [not_isComment_of_isTest (List.mem_filter.mp member).2]
    rfl
  have others : (lines.filter (!isTest ·)).countP (!isComment ·) =
      (lines.filter (!isTest ·)).count (planLine count) := by
    refine List.countP_congr fun line member => ?_
    obtain ⟨among, untested⟩ := List.mem_filter.mp member
    rcases sorts line among with test | comment | rfl
    · simp [test] at untested
    · have notPlan : line ≠ planLine count := by
        rintro rfl
        cases comment
      simp [comment, notPlan]
    · simp [not_isComment_planLine]
  rw [List.countP_eq_countP_filter_add lines _ isTest, tests, others,
    List.count_filter (by simp [not_isTest_planLine]), plan]

end OutputLine

/-- Comments make no difference to what lines tell. -/
theorem TellsOutcomes.of_filter {first second : List Text} {kinds : List OutcomeKind}
    (tells : TellsOutcomes first kinds)
    (same : first.filter (!isComment ·) = second.filter (!isComment ·)) :
    TellsOutcomes second kinds := by
  have tests (lines : List Text) :
      (lines.filter (!isComment ·)).filter isTest = lines.filter isTest := by
    rw [List.filter_filter]
    refine List.filter_congr fun line _ => ?_
    cases test : isTest line with
    | false => rfl
    | true => simp [not_isComment_of_isTest test]
  have sameTests : first.filter isTest = second.filter isTest := by
    rw [← tests, same, tests]
  refine ⟨fun line member => ?_, ?_, ?_, ?_⟩
  · cases comment : isComment line with
    | true => exact .inr (.inl rfl)
    | false =>
        have telling : line ∈ first.filter (!isComment ·) :=
          same ▸ List.mem_filter.mpr ⟨member, by simp [comment]⟩
        simpa [comment] using tells.sorts line (List.mem_filter.mp telling).1
  · have counted (lines : List Text) : (lines.filter (!isComment ·)).count
        (planLine kinds.length) = lines.count (planLine kinds.length) :=
      List.count_filter (by simp [not_isComment_planLine])
    rw [← counted, ← same, counted, tells.plan]
  · rw [← sameTests]
    exact tells.numbers
  · rw [← sameTests]
    exact tells.readings

/-- Entries that may break into several lines.  If their first lines are as many as the assertions
and the plan, the lines tell what the first lines tell, provided that all others are comments. -/
theorem tellsOutcomes_flatMap_iff {entries : List Text} {kinds : List OutcomeKind}
    (counted : (entries.map (Text.firstPart '\n')).countP (!isComment ·) = kinds.length + 1) :
    TellsOutcomes (entries.flatMap (Text.splitAt '\n')) kinds ↔
      (∀ entry ∈ entries, ∀ part ∈ Text.laterParts '\n' entry, isComment part = true) ∧
        TellsOutcomes (entries.map (Text.firstPart '\n')) kinds := by
  have counts : (entries.flatMap (Text.splitAt '\n')).countP (!isComment ·) =
      kinds.length + 1 + (entries.flatMap (Text.laterParts '\n')).countP (!isComment ·) := by
    have parted := List.map_append_flatMap_perm entries (Text.firstPart '\n')
      (Text.laterParts '\n')
    simp only [← Text.splitAt_eq] at parted
    rw [← parted.countP_eq, List.countP_append, counted]
  have same (comments : ∀ entry ∈ entries, ∀ part ∈ Text.laterParts '\n' entry,
      isComment part = true) :
      (entries.flatMap (Text.splitAt '\n')).filter (!isComment ·) =
        (entries.map (Text.firstPart '\n')).filter (!isComment ·) := by
    rw [List.filter_flatMap, List.map_eq_flatMap, List.filter_flatMap]
    refine List.flatMap_congr fun entry member => ?_
    have dropped : (Text.laterParts '\n' entry).filter (!isComment ·) = [] := by
      rw [List.filter_eq_nil_iff]
      intro part among
      simp [comments entry member part among]
    rw [Text.splitAt_eq, List.filter_cons, List.filter_cons, dropped, List.filter_nil]
  constructor
  · -- There are as many lines that count as first lines that count, so no other line does.
    intro tells
    have total := countP_not_isComment tells.sorts tells.plan
    rw [← List.length_map reading, tells.readings, counts, Nat.add_eq_left,
      List.countP_eq_zero] at total
    have comments : ∀ entry ∈ entries, ∀ part ∈ Text.laterParts '\n' entry,
        isComment part = true := by
      intro entry member part among
      simpa using total part (List.mem_flatMap.mpr ⟨entry, member, among⟩)
    exact ⟨comments, tells.of_filter (same comments)⟩
  · rintro ⟨comments, tells⟩
    exact tells.of_filter (same comments).symm

namespace RecorderCall

/-- How an assertion turns out. -/
def kind (call : RecorderCall) : OutcomeKind :=
  if call.isTodo then .todo else if call.isPassed then .pass else .fail

/-- A recorder holds the accepted assertions, each as it turns out. -/
theorem map_kind_outcomes (calls : List RecorderCall) :
    (recorderOf calls).outcomes.map Outcome.kind = (accepted calls).map kind := by
  have outcomes : ∀ call ∈ accepted calls,
      call.outcome?.map Outcome.kind = some call.kind := by
    intro call member
    have asserts := (List.mem_filter.mp member).2
    cases call with
    | ok passed name =>
        cases truth : passed.isTruthy <;> simp [outcome?, kind, isTodo, isPassed, truth]
    | todo name reason => rfl
    | diag | finish => cases asserts
  rw [recorderOf, List.map_filterMap, List.filterMap_congr outcomes]
  exact congrFun List.filterMap_eq_map _

/-- What the test line of an assertion begins with, ahead of its number. -/
def lead (call : RecorderCall) : Text :=
  if call.isPassed then "ok ".toList else "not ok ".toList

/-- What follows the number in the test line of an assertion. -/
def tail : RecorderCall → Text
  | ok _ name => if name = [] then [] else " - ".toList ++ name
  | todo name reason =>
    " - ".toList ++ (name ++ (" # TODO".toList ++ Text.stripRight (' ' :: reason)))
  | diag _ => []
  | finish => []

def testLine (number : Nat) (call : RecorderCall) : Text :=
  call.lead ++ Text.ofNat number ++ call.tail

/-- A text stays in its line if its first line is marked as it should be, and all further lines are
comments. -/
def StaysInLine (marked : Bool) (text : Text) : Prop :=
  isMarked (Text.firstPart '\n' text) = marked ∧
    ∀ part ∈ Text.laterParts '\n' text, isComment part = true

/-- Whether the name of an assertion, and the reason of an open task, fit in its test line. -/
def FitsLine : RecorderCall → Prop
  | ok _ name => StaysInLine false name
  | todo name reason =>
    StaysInLine true (name ++ (" # TODO".toList ++ Text.stripRight (' ' :: reason)))
  | diag _ => True
  | finish => True

instance (marked : Bool) (text : Text) : Decidable (StaysInLine marked text) :=
  inferInstanceAs (Decidable (_ ∧ ∀ part ∈ Text.laterParts '\n' text, isComment part = true))

instance : (call : RecorderCall) → Decidable call.FitsLine
  | ok _ name => inferInstanceAs (Decidable (StaysInLine false name))
  | todo name reason => inferInstanceAs (Decidable (StaysInLine true
      (name ++ (" # TODO".toList ++ Text.stripRight (' ' :: reason)))))
  | diag _ => .isTrue trivial
  | finish => .isTrue trivial

theorem staysInLine_append {front : Text} (unbroken : '\n' ∉ front) (hashless : '#' ∉ front)
    (marked : Bool) (text : Text) :
    StaysInLine marked (front ++ text) ↔ StaysInLine marked text := by
  rw [StaysInLine, StaysInLine, Text.firstPart_append '\n' unbroken,
    Text.laterParts_append '\n' unbroken, isMarked_append hashless]

theorem unbroken_front (number : Nat) (call : RecorderCall) :
    '\n' ∉ call.lead ++ Text.ofNat number ∧ '#' ∉ call.lead ++ Text.ofNat number := by
  have digits {c : Char} (notDigit : c.isDigit = false) (notInLead : c ∉ call.lead) :
      c ∉ call.lead ++ Text.ofNat number := by
    rw [List.mem_append, not_or]
    exact ⟨notInLead, Text.not_mem_ofNat notDigit number⟩
  constructor
  · refine digits (by decide) ?_
    rw [lead]
    split <;> decide
  · refine digits (by decide) ?_
    rw [lead]
    split <;> decide

theorem hasNumber_testLine (number : Nat) (call : RecorderCall) :
    HasNumber number (Text.firstPart '\n' (call.testLine number)) := by
  refine ⟨call.lead, ?_, Text.firstPart '\n' call.tail, ?_, ?_⟩
  · rw [lead]
    split <;> simp
  · rw [testLine, Text.firstPart_append '\n' (unbroken_front number call).1]
  · cases call with
    | ok passed name =>
        rw [tail]
        split
        · exact .inl rfl
        · exact .inr rfl
    | todo name reason => exact .inr rfl
    | diag | finish => exact .inl rfl

theorem staysInLine_tail {call : RecorderCall} (asserts : call.isAssertion = true) :
    StaysInLine call.isTodo call.tail ↔ call.FitsLine := by
  cases call with
  | ok passed name =>
      rw [tail]
      split
      · next unnamed =>
        subst unnamed
        rfl
      · exact staysInLine_append (by decide) (by decide) false name
  | todo name reason => exact staysInLine_append (by decide) (by decide) true _
  | diag | finish => cases asserts

theorem reading_lead (number : Nat) (call : RecorderCall) (text : Text) :
    reading (call.lead ++ Text.ofNat number ++ text) =
      if isMarked text then .todo else if call.isPassed then .pass else .fail := by
  have begins : "ok ".toList.isPrefixOf (call.lead ++ Text.ofNat number ++ text) =
      call.isPassed := by
    rw [lead, List.append_assoc]
    cases call.isPassed <;> rfl
  rw [reading, isMarked_append (unbroken_front number call).2, begins]

/-- The test line of an assertion reads as it turns out, and breaks into comments only, exactly if
it fits. -/
theorem fitsLine_iff {call : RecorderCall} (asserts : call.isAssertion = true) (number : Nat) :
    call.FitsLine ↔
      (∀ part ∈ Text.laterParts '\n' (call.testLine number), isComment part = true) ∧
        reading (Text.firstPart '\n' (call.testLine number)) = call.kind := by
  have unbroken := (unbroken_front number call).1
  have marks : (if isMarked (Text.firstPart '\n' call.tail) then OutcomeKind.todo
      else if call.isPassed then .pass else .fail) = call.kind ↔
        isMarked (Text.firstPart '\n' call.tail) = call.isTodo := by
    rw [kind]
    cases isMarked (Text.firstPart '\n' call.tail) <;> cases call.isTodo <;>
      cases call.isPassed <;> decide
  rw [← staysInLine_tail asserts, StaysInLine, testLine, Text.firstPart_append '\n' unbroken,
    Text.laterParts_append '\n' unbroken, reading_lead, marks, and_comm]

theorem isTest_testLine (number : Nat) (call : RecorderCall) :
    isTest (call.testLine number) = true := by
  rw [testLine, lead]
  cases call.isPassed <;> rfl

/-- The entry of an assertion is its test line, unless it comes after the plan. -/
theorem entries_of_isAssertion {call : RecorderCall} (asserts : call.isAssertion = true)
    (before : List RecorderCall) :
    entries before call =
      if planned before then [] else [call.testLine ((accepted before).length + 1)] := by
  cases call with
  | ok passed name => rfl
  | todo name reason => simp only [entries, testLine, lead, tail, isPassed, List.append_assoc]; rfl
  | diag | finish => cases asserts

/-- The entry of a call that asserts nothing is a comment or the plan, on a single line. -/
theorem sorts_of_not_isAssertion {call : RecorderCall} (asserts : call.isAssertion = false)
    (before : List RecorderCall) :
    ∀ entry ∈ entries before call,
      '\n' ∉ entry ∧ (isComment entry = true ∨ isPlanLine entry = true) := by
  cases call with
  | ok passed name => simp at asserts
  | todo name reason => cases asserts
  | diag message =>
      intro entry member
      obtain ⟨lines, -, cut, single⟩ := (Recorder.after_recordsCalls before).comments message
      obtain ⟨begins, unbroken⟩ := single entry member
      refine ⟨fun broken => ?_, .inl (decide_eq_true begins)⟩
      exact absurd (unbroken '\n' broken) (by decide)
  | finish =>
      rw [entries]
      split
      · exact fun entry member => absurd member List.not_mem_nil
      · simp [unbroken_planLine]

theorem sorts_entriesOf (calls : List RecorderCall) :
    ∀ entry ∈ entriesOf calls, isTest entry = true ∨
      '\n' ∉ entry ∧ (isComment entry = true ∨ isPlanLine entry = true) := by
  induction calls using List.reverseRecOn with
  | nil => exact fun entry member => absurd member List.not_mem_nil
  | append_singleton before call ih =>
      rw [entriesOf_append]
      intro entry member
      rcases List.mem_append.mp member with earlier | own
      · exact ih entry earlier
      · cases asserts : call.isAssertion with
        | false => exact .inr (sorts_of_not_isAssertion asserts before entry own)
        | true =>
            rw [entries_of_isAssertion asserts] at own
            split at own
            · cases own
            · rw [List.mem_singleton.mp own]
              exact .inl (isTest_testLine _ call)

/-- The entries that are test lines are those of the accepted assertions, numbered in order. -/
theorem filter_isTest_entriesOf (calls : List RecorderCall) :
    (entriesOf calls).filter isTest =
      (accepted calls).mapIdx fun place call => call.testLine (place + 1) := by
  induction calls using List.reverseRecOn with
  | nil => rfl
  | append_singleton before call ih =>
      rw [entriesOf_append, List.filter_append, ih]
      cases asserts : call.isAssertion with
      | true =>
          rw [entries_of_isAssertion asserts]
          cases closed : planned before with
          | true => simp [accepted_append_of_planned closed]
          | false =>
              simp [accepted_append_of_open closed, asserts, isTest_testLine, List.mapIdx_append]
      | false =>
          have untested : (entries before call).filter isTest = [] := by
            rw [List.filter_eq_nil_iff]
            intro entry member test
            rcases (sorts_of_not_isAssertion asserts before entry member).2 with comment | plan
            · rw [not_isComment_of_isTest test] at comment
              cases comment
            · rw [not_isTest_of_isPlanLine plan] at test
              cases test
          have unaccepted : accepted (before ++ [call]) = accepted before := by
            cases closed : planned before with
            | true => exact accepted_append_of_planned closed call
            | false => simp [accepted_append_of_open closed, asserts]
          rw [untested, unaccepted, List.append_nil]

theorem filter_isTest_firstParts (calls : List RecorderCall) :
    ((entriesOf calls).map (Text.firstPart '\n')).filter isTest =
      (accepted calls).mapIdx fun place call =>
        Text.firstPart '\n' (call.testLine (place + 1)) := by
  have sameTests : isTest ∘ Text.firstPart '\n' = isTest := funext isTest_firstPart
  rw [List.filter_map, sameTests, filter_isTest_entriesOf, eq_comm, List.mapIdx_eq_iff]
  simp [Function.comp_def]

section Finished

variable {calls : List RecorderCall} (closed : planned calls = true)

include closed

/-- The first lines of the entries are test lines, comments, or the plan, which is written once. -/
theorem firstParts_entriesOf :
    (∀ line ∈ (entriesOf calls).map (Text.firstPart '\n'),
      isTest line = true ∨ isComment line = true ∨ line = planLine (accepted calls).length) ∧
    ((entriesOf calls).map (Text.firstPart '\n')).count (planLine (accepted calls).length) =
      1 := by
  have plans := filter_isPlanLine_entriesOf calls
  rw [if_pos closed] at plans
  have first : ∀ entry ∈ entriesOf calls, isTest entry = false →
      Text.firstPart '\n' entry = entry ∧
        (isComment entry = true ∨ entry = planLine (accepted calls).length) := by
    intro entry member untested
    rcases sorts_entriesOf calls entry member with test | ⟨unbroken, sort⟩
    · rw [test] at untested
      cases untested
    · refine ⟨Text.firstPart_of_not_mem unbroken, sort.imp_right fun plan => ?_⟩
      exact List.mem_singleton.mp (plans ▸ List.mem_filter.mpr ⟨member, plan⟩)
  constructor
  · intro line member
    obtain ⟨entry, among, rfl⟩ := List.mem_map.mp member
    cases test : isTest entry with
    | true => exact .inl ((isTest_firstPart entry).trans test)
    | false =>
        obtain ⟨same, sort⟩ := first entry among test
        rw [same]
        exact .inr sort
  · have counted : (entriesOf calls).count (planLine (accepted calls).length) = 1 := by
      rw [← List.count_filter (isPlanLine_planLine _), plans, List.count_singleton_self]
    rw [← counted, List.count_eq_countP, List.count_eq_countP, List.countP_map]
    refine List.countP_congr fun entry member => ?_
    cases test : isTest entry with
    | true =>
        have other {line : Text} (isTest : isTest line = true) :
            line ≠ planLine (accepted calls).length := by
          rintro rfl
          cases isTest
        simp [other test, other ((isTest_firstPart entry).trans test)]
    | false =>
        have same := (first entry member test).1
        simp [same]

/-- The lines of a finished output tell the recorded assertions exactly if each of them fits in its
test line. -/
theorem tellsOutcomes_iff :
    TellsOutcomes ((entriesOf calls).flatMap (Text.splitAt '\n')) ((accepted calls).map kind) ↔
      ∀ call ∈ accepted calls, call.FitsLine := by
  obtain ⟨sorts, plan⟩ := firstParts_entriesOf closed
  have tests := filter_isTest_firstParts calls
  have counted := countP_not_isComment sorts plan
  rw [tests, List.length_mapIdx, ← List.length_map kind] at counted
  rw [tellsOutcomes_flatMap_iff counted]
  have asserts : ∀ call ∈ accepted calls, call.isAssertion = true := fun call member =>
    (List.mem_filter.mp member).2
  constructor
  · -- An assertion is read off the test line that has its place.
    rintro ⟨comments, tells⟩ call member
    obtain ⟨place, here, rfl⟩ := List.mem_iff_getElem.mp member
    rw [fitsLine_iff (asserts _ member) (place + 1)]
    constructor
    · refine comments _ (List.mem_of_mem_filter (p := isTest) ?_)
      rw [filter_isTest_entriesOf, List.mem_mapIdx]
      exact ⟨place, here, rfl⟩
    · have read := congrArg (·[place]?) tells.readings
      simpa [tests, here] using read
  · intro fits
    refine ⟨fun entry member => ?_, ?_, ?_, ?_, ?_⟩
    · rcases sorts_entriesOf calls entry member with test | ⟨unbroken, -⟩
      · have among : entry ∈ (entriesOf calls).filter isTest := List.mem_filter.mpr ⟨member, test⟩
        rw [filter_isTest_entriesOf, List.mem_mapIdx] at among
        obtain ⟨place, here, rfl⟩ := among
        have isAccepted := List.getElem_mem here
        exact ((fitsLine_iff (asserts _ isAccepted) (place + 1)).mp (fits _ isAccepted)).1
      · rw [Text.laterParts_of_not_mem unbroken]
        exact List.forall_mem_nil _
    · rwa [List.length_map]
    · rwa [List.length_map]
    · intro place line found
      rw [tests, List.getElem?_mapIdx, Option.map_eq_some_iff] at found
      obtain ⟨call, -, rfl⟩ := found
      exact hasNumber_testLine (place + 1) call
    · rw [tests]
      refine List.ext_getElem (by simp) fun place here there => ?_
      have isAccepted := List.getElem_mem (by simpa using there : place < (accepted calls).length)
      simpa using ((fitsLine_iff (asserts _ isAccepted) (place + 1)).mp (fits _ isAccepted)).2

end Finished

end RecorderCall

end FeatureRunner
