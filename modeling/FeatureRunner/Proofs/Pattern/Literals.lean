import FeatureRunner.Proofs.Pattern.Escaping
import FeatureRunner.Proofs.Pattern.Matching
import FeatureRunner.Proofs.Text.Colon
import Mathlib.Data.List.TakeWhile

/-!
# What literal patterns find

A literal text stands for its content: itself, or what comes ahead of a colon at its end that only
blanks follow.  The pattern of the text is found in what begins like the content, character by
character and without regard to case, and takes in a colon after it.  It is found nowhere else: not
in the middle of a text, not after a line break, and not by way of any character with a meaning for
pattern expressions.

The content can also be told by an expression for the colon at the end, searched for in the text.
This file proves that both ways to tell it agree.
-/

namespace FeatureRunner

open Pattern PatternExpr

/-- Whether a text ends in a colon, or in a colon and blanks. -/
def EndsInColon (text : Text) : Prop :=
  ∃ front blanks, text = front ++ ':' :: blanks ∧ ∀ c ∈ blanks, isBlank c = true

/-- A literal text stands for what comes ahead of the colon that it ends in, or else for itself. -/
def StandsFor (text content : Text) : Prop :=
  (∃ blanks, (∀ c ∈ blanks, isBlank c = true) ∧ text = content ++ ':' :: blanks) ∨
    (¬ EndsInColon text ∧ content = text)

theorem dropTrailingColon_append {blanks : Text} (blank : ∀ c ∈ blanks, isBlank c = true)
    (front : Text) : dropTrailingColon (front ++ ':' :: blanks) = front := by
  have reversed : (front ++ ':' :: blanks).reverse.dropWhile isBlank = ':' :: front.reverse := by
    rw [List.reverse_append, List.reverse_cons, List.append_assoc, List.dropWhile_append_of_pos]
    · rfl
    · exact fun c member => blank c (List.mem_reverse.mp member)
  rw [dropTrailingColon, reversed]
  exact List.reverse_reverse front

theorem dropTrailingColon_of_not_endsInColon {text : Text} (unended : ¬ EndsInColon text) :
    dropTrailingColon text = text := by
  unfold dropTrailingColon
  split
  · next before trimmed =>
    have cut := List.takeWhile_append_dropWhile (p := isBlank) (l := text.reverse)
    rw [trimmed] at cut
    refine absurd ⟨before.reverse, (text.reverse.takeWhile isBlank).reverse, ?_, ?_⟩ unended
    · have whole := congrArg List.reverse cut
      rw [List.reverse_append, List.reverse_cons, List.append_assoc, List.reverse_reverse] at whole
      exact whole.symm
    · intro c member
      exact List.mem_takeWhile_imp (List.mem_reverse.mp member)
  · rfl

theorem standsFor_iff {text content : Text} :
    StandsFor text content ↔ content = dropTrailingColon text := by
  constructor
  · rintro (⟨blanks, blank, rfl⟩ | ⟨unended, rfl⟩)
    · exact (dropTrailingColon_append blank content).symm
    · exact (dropTrailingColon_of_not_endsInColon unended).symm
  · rintro rfl
    by_cases ended : EndsInColon text
    · obtain ⟨front, blanks, rfl, blank⟩ := ended
      rw [dropTrailingColon_append blank]
      exact .inl ⟨blanks, blank, rfl⟩
    · exact .inr ⟨ended, dropTrailingColon_of_not_endsInColon ended⟩

section TrailingColon

/-- The expression for a colon at the end of a text, with the blanks after it. -/
def trailingColon : Pattern where
  source := ":\\s*$".toList
  flags := ⟨false, false, false⟩
  expr := .sequence [.char ':', .iterate 0 none true (.set false [.kind .blank false]), .lineEnd]
  groupCount := 0

/-- This is how its source is read. -/
theorem ofSource?_trailingColon :
    Pattern.ofSource? trailingColon.source trailingColon.flags = some trailingColon := by
  decide +kernel

/-- A text without what a pattern finds in it. -/
def withoutMatch (pattern : Pattern) (text : Text) : Text :=
  match pattern.search text with
  | some found => text.take found.first ++ text.drop found.last
  | none => text

def blankRun : MatchState → MatchRest → Option MatchState :=
  run trailingColon.flags (.set false [.kind .blank false])

theorem blankRun_cons (position : Nat) (previous : Option Char) (c : Char) (rest : Text)
    (groups : List (Nat × Nat × Nat)) (next : MatchRest) :
    blankRun ⟨position, previous, c :: rest, groups⟩ next =
      if isBlank c then next ⟨position + 1, some c, rest, groups⟩ else none := by
  simp [blankRun, run, matchOne, setMatches, trailingColon, SetItem.has, CharKind.has,
    MatchState.advance]

/-- The test for the end succeeds ahead of nothing, or of a line break and nothing. -/
theorem run_lineEnd (state : MatchState) :
    run trailingColon.flags .lineEnd state some =
      if state.rest = [] ∨ state.rest = ['\n'] then some state else none := by
  simp [run, matchPlace, trailingColon]

/-- Blanks that have to reach the end of the text.  Taking back some of them is of no use: what is
left then is more than a line break at the end. -/
theorem matchRounds_blanks {fuel count position : Nat} {last : Option Nat}
    {previous : Option Char} {rest : Text} {groups : List (Nat × Nat × Nat)}
    (enough : rest.length < fuel) (moved : last ≠ some position) :
    matchRounds blankRun 0 none true fuel count last ⟨position, previous, rest, groups⟩
        (fun reached => run trailingColon.flags .lineEnd reached some) =
      if rest.all isBlank then
        some (MatchState.skip ⟨position, previous, rest, groups⟩ rest.length)
      else none := by
  induction rest generalizing fuel count last position previous with
  | nil =>
      obtain ⟨fuel, rfl⟩ := Nat.exists_eq_add_of_lt enough
      rw [matchRounds_star moved, run_lineEnd]
      rfl
  | cons c rest ih =>
      obtain ⟨fuel, rfl⟩ := Nat.exists_eq_add_of_lt enough
      rw [matchRounds_star moved, blankRun_cons, run_lineEnd,
        ih (by rw [List.length_cons]; omega) (by simp), List.all_cons]
      have moreLeft (left : (isBlank c && rest.all isBlank) = false) : c = '\n' → ¬ rest = [] := by
        rintro rfl rfl
        exact absurd left (by decide)
      cases blank : isBlank c with
      | false => simpa using moreLeft (by rw [blank]; rfl)
      | true =>
          cases others : rest.all isBlank with
          | false => simpa using moreLeft (by rw [blank, others]; rfl)
          | true => rfl

theorem matchAt_trailingColon (position : Nat) (previous : Option Char) (c : Char) (rest : Text) :
    let state : MatchState := ⟨position, previous, c :: rest, []⟩
    matchAt trailingColon.flags trailingColon.expr state =
      if c = ':' ∧ rest.all isBlank = true then some (state.skip (rest.length + 1)) else none := by
  intro state
  have blanks : run trailingColon.flags (.iterate 0 none true (.set false [.kind .blank false]))
      ⟨position + 1, some c, rest, []⟩
      (fun reached => run trailingColon.flags .lineEnd reached some) =
        if rest.all isBlank then
          some (MatchState.skip ⟨position + 1, some c, rest, []⟩ rest.length)
        else none :=
    matchRounds_blanks (by simp) (by simp)
  have parts : matchAt trailingColon.flags trailingColon.expr state =
      if charMatches trailingColon.flags ':' c then
        run trailingColon.flags (.iterate 0 none true (.set false [.kind .blank false]))
          ⟨position + 1, some c, rest, []⟩
          (fun reached => run trailingColon.flags .lineEnd reached some)
      else none := rfl
  have colon : charMatches trailingColon.flags ':' c = decide (c = ':') := by
    simp [charMatches, trailingColon, beq_eq_decide, eq_comm]
  rw [parts, blanks, colon]
  by_cases same : c = ':'
  · simp [same, state, MatchState.skip, MatchState.advance]
  · simp [same]

/-- The expression finds nothing in a text that does not end in a colon. -/
theorem searchFrom_of_not_endsInColon {text : Text} (unended : ¬ EndsInColon text) (position : Nat)
    (previous : Option Char) :
    searchFrom trailingColon.flags trailingColon.expr position previous text = none := by
  induction text generalizing position previous with
  | nil => rfl
  | cons c rest ih =>
      have unmatched : ¬ (c = ':' ∧ rest.all isBlank = true) := by
        rintro ⟨rfl, blank⟩
        exact unended ⟨[], rest, rfl, List.all_eq_true.mp blank⟩
      rw [searchFrom, matchAt_trailingColon, if_neg unmatched]
      refine ih ?_ _ _
      rintro ⟨front, blanks, rfl, blank⟩
      exact unended ⟨c :: front, blanks, rfl, blank⟩

/-- In a text that ends in a colon, the expression finds the colon and everything after it. -/
theorem searchFrom_of_endsInColon {blanks : Text} (blank : ∀ c ∈ blanks, isBlank c = true)
    (front : Text) (position : Nat) (previous : Option Char) :
    ∃ final, searchFrom trailingColon.flags trailingColon.expr position previous
        (front ++ ':' :: blanks) = some (position + front.length, final) ∧
      final.position = position + (front ++ ':' :: blanks).length := by
  induction front generalizing position previous with
  | nil =>
      have whole : ':' = ':' ∧ blanks.all isBlank = true := ⟨rfl, List.all_eq_true.mpr blank⟩
      let state : MatchState := ⟨position, previous, ':' :: blanks, []⟩
      refine ⟨state.skip (blanks.length + 1), ?_, MatchState.position_skip (Nat.le_refl _)⟩
      rw [List.nil_append, searchFrom, matchAt_trailingColon, if_pos whole]
      rfl
  | cons c front ih =>
      have unmatched : ¬ (c = ':' ∧ (front ++ ':' :: blanks).all isBlank = true) := by
        rintro ⟨-, all⟩
        have colon := List.all_eq_true.mp all ':' (by simp)
        exact absurd colon (by decide)
      obtain ⟨final, found, ends⟩ := ih (position + 1) (some c)
      refine ⟨final, ?_, ?_⟩
      · rw [List.cons_append, searchFrom, matchAt_trailingColon, if_neg unmatched]
        simpa [Nat.add_assoc, Nat.add_comm 1] using found
      · simpa [Nat.add_assoc, Nat.add_comm 1] using ends

/-- Taking away the colon at the end is taking away what the expression finds. -/
theorem withoutMatch_trailingColon (text : Text) :
    withoutMatch trailingColon text = dropTrailingColon text := by
  by_cases ended : EndsInColon text
  · obtain ⟨front, blanks, rfl, blank⟩ := ended
    obtain ⟨final, found, ends⟩ := searchFrom_of_endsInColon blank front 0 none
    rw [withoutMatch, Pattern.search, found, dropTrailingColon_append blank]
    simp [ends]
  · rw [withoutMatch, Pattern.search, searchFrom_of_not_endsInColon ended,
      dropTrailingColon_of_not_endsInColon ended]
    rfl

end TrailingColon

/-- The colon that may follow the content is taken in if it is there. -/
theorem run_colon (state : MatchState) :
    run ⟨true, false, false⟩ (.iterate 0 (some 1) true (.char ':')) state some =
      some (if state.rest.head? = some ':' then state.skip 1 else state) := by
  rw [run_optional, run, matchOne]
  cases holds : state.rest with
  | nil => rfl
  | cons c rest =>
      have taken : state.skip 1 = state.advance c rest := MatchState.skip_of_rest holds 0
      have colon : charMatches ⟨true, false, false⟩ ':' c = decide (c = ':') := by
        rw [Bool.eq_iff_iff, decide_eq_true_eq]
        exact sameLetter_colon_iff
      rw [taken]
      dsimp only
      rw [colon]
      by_cases same : c = ':' <;> simp [same]

/-- A literal pattern is found in what begins like the content of its text. -/
theorem search_ofLiteral (text searched : Text) :
    let content := dropTrailingColon text
    (Pattern.ofLiteral text).search searched =
      if startsLike ⟨true, false, false⟩ content searched then
        some ⟨0, content.length + if searched[content.length]? = some ':' then 1 else 0, []⟩
      else none := by
  intro content
  have parts : (Pattern.ofLiteral text).expr =
      .sequence (.lineStart :: (content.map .char ++ [.iterate 0 (some 1) true (.char ':')])) := rfl
  have flags : (Pattern.ofLiteral text).flags = ⟨true, false, false⟩ := rfl
  have last : PatternExpr.sequence [.iterate 0 (some 1) true (.char ':')] =
      .iterate 0 (some 1) true (.char ':') := rfl
  rw [Pattern.search, parts, flags, searchFrom_lineStart rfl, run_sequence_chars, last, run_colon,
    show (MatchState.start searched).rest = searched from rfl]
  cases begins : startsLike ⟨true, false, false⟩ content searched with
  | false => rfl
  | true =>
      have within : content.length ≤ searched.length := (startsLike_iff.mp begins).1
      have reached : ((MatchState.start searched).skip content.length).position = content.length :=
        (MatchState.position_skip within).trans (Nat.zero_add _)
      have next : (searched.drop content.length).head? = searched[content.length]? :=
        List.head?_drop
      rw [if_pos rfl, if_pos rfl, MatchState.rest_skip,
        show (MatchState.start searched).rest = searched from rfl, next]
      by_cases colon : searched[content.length]? = some ':'
      · have more : 1 ≤ ((MatchState.start searched).skip content.length).rest.length := by
          have further := (List.getElem?_eq_some_iff.mp colon).1
          rw [MatchState.rest_skip, List.length_drop]
          exact Nat.sub_pos_of_lt further
        rw [if_pos colon, if_pos colon, Option.map_some, Option.map_some,
          MatchState.position_skip more, reached]
        rfl
      · rw [if_neg colon, if_neg colon, Option.map_some, Option.map_some, reached]
        rfl

/-- What a literal text comes to: its content, the pattern, and where the pattern is found. -/
structure LiteralPattern (text content : Text) : Prop where
  stands : ∀ other, StandsFor text other ↔ other = content
  stripped : withoutMatch trailingColon text = content
  reads : Pattern.ofSource? ('^' :: escape content ++ ":?".toList) ⟨true, false, false⟩ =
    some (PatternSource.text text).compile
  parts : (PatternSource.text text).compile.expr =
    .sequence (.lineStart :: content.map .char ++ [.iterate 0 (some 1) true (.char ':')])
  finds : ∀ searched found,
    (PatternSource.text text).compile.search searched = some found ↔
      (content.length ≤ searched.length ∧
        ∀ (place : Nat) (c d : Char), content[place]? = some c → searched[place]? = some d →
          sameLetter c d = true) ∧
      found = ⟨0, content.length + if searched[content.length]? = some ':' then 1 else 0, []⟩
  colon : ∀ blanks, (∀ c ∈ blanks, isBlank c = true) → ¬ EndsInColon text →
    (PatternSource.text (text ++ ':' :: blanks)).compile = (PatternSource.text text).compile

/-- Literal patterns find exactly what begins like their content. -/
theorem exists_literalPattern (text : Text) : ∃ content, LiteralPattern text content := by
  refine ⟨dropTrailingColon text, fun other => standsFor_iff, withoutMatch_trailingColon text, ?_,
    rfl, fun searched found => ?_, fun blanks blank unended => ?_⟩
  · rw [Pattern.ofSource?, PatternReader.read_literal]
    rfl
  · have begins : startsLike ⟨true, false, false⟩ (dropTrailingColon text) searched = true ↔
        (dropTrailingColon text).length ≤ searched.length ∧
          ∀ (place : Nat) (c d : Char), (dropTrailingColon text)[place]? = some c →
            searched[place]? = some d → sameLetter c d = true := startsLike_iff
    rw [PatternSource.compile, search_ofLiteral, ← begins]
    by_cases matched : startsLike ⟨true, false, false⟩ (dropTrailingColon text) searched = true
    · rw [if_pos matched, Option.some_inj, eq_comm, and_iff_right matched]
    · rw [if_neg matched]
      exact ⟨fun found => (Option.some_ne_none _ found.symm).elim,
        fun both => absurd both.1 matched⟩
  · have same : dropTrailingColon (text ++ ':' :: blanks) = dropTrailingColon text := by
      rw [dropTrailingColon_append blank, dropTrailingColon_of_not_endsInColon unended]
    rw [PatternSource.compile, PatternSource.compile, ofLiteral, ofLiteral, same]

example : (PatternSource.text "a (b)?: ".toList).compile.search "A (B)?:\nc".toList =
    some ⟨0, 7, []⟩ := by
  decide +kernel

end FeatureRunner
