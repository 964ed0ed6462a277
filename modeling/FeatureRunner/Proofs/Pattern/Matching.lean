import FeatureRunner.Pattern.Expr

/-!
# How sequences of characters match

A sequence of characters matches character by character, and then everything that follows it has to
match.  An optional part is tried first and left out if nothing comes of it.  A sequence that begins
at the start of a line, in a search that knows of one line only, is found at the beginning of a text
or not at all.

This file proves these rules for the matcher of pattern expressions.
-/

namespace FeatureRunner

namespace MatchState

/-- The state some characters further on in the text. -/
def skip (state : MatchState) : Nat → MatchState
  | 0 => state
  | count + 1 =>
    match state.rest with
    | [] => state
    | c :: rest => skip (state.advance c rest) count

variable {state : MatchState} {count : Nat}

theorem skip_of_rest {c : Char} {rest : Text} (holds : state.rest = c :: rest) (count : Nat) :
    state.skip (count + 1) = (state.advance c rest).skip count := by
  rw [skip, holds]

@[simp]
theorem rest_skip (state : MatchState) (count : Nat) :
    (state.skip count).rest = state.rest.drop count := by
  induction count generalizing state with
  | zero => rfl
  | succ count ih =>
      cases holds : state.rest with
      | nil => rw [skip, holds]; simp [holds]
      | cons c rest => rw [skip_of_rest holds, ih]; rfl

theorem position_skip (within : count ≤ state.rest.length) :
    (state.skip count).position = state.position + count := by
  induction count generalizing state with
  | zero => rfl
  | succ count ih =>
      cases holds : state.rest with
      | nil => simp [holds] at within
      | cons c rest =>
          have left : count ≤ rest.length := by simpa [holds] using within
          rw [skip_of_rest holds, ih left]
          change state.position + 1 + count = _
          omega

end MatchState

namespace PatternExpr

variable {flags : PatternFlags} {state : MatchState} {next : MatchRest}

theorem run_sequence_cons (part : PatternExpr) (others : List PatternExpr) :
    run flags (sequence (part :: others)) state next =
      run flags part state fun reached => run flags (sequence others) reached next := by
  cases others <;> rfl

/-- Whether a text begins like a content, character by character. -/
def startsLike (flags : PatternFlags) : Text → Text → Bool
  | [], _ => true
  | _ :: _, [] => false
  | c :: content, d :: text => charMatches flags c d && startsLike flags content text

theorem startsLike_iff {content text : Text} :
    startsLike flags content text = true ↔
      content.length ≤ text.length ∧
        ∀ (place : Nat) (c d : Char), content[place]? = some c → text[place]? = some d →
          charMatches flags c d = true := by
  induction content generalizing text with
  | nil => simp [startsLike]
  | cons c content ih =>
      cases text with
      | nil => simp [startsLike]
      | cons d text =>
          rw [startsLike, Bool.and_eq_true, ih]
          constructor
          · rintro ⟨first, within, others⟩
            refine ⟨Nat.succ_le_succ within, fun place c' d' => ?_⟩
            cases place with
            | zero =>
                rintro ⟨⟩ ⟨⟩
                exact first
            | succ place => exact others place c' d'
          · rintro ⟨within, all⟩
            exact ⟨all 0 c d rfl rfl, Nat.le_of_succ_le_succ within,
              fun place => all (place + 1)⟩

/-- Characters in a sequence match a text that begins like them. -/
theorem run_sequence_chars (content : Text) (others : List PatternExpr) :
    run flags (sequence (content.map .char ++ others)) state next =
      if startsLike flags content state.rest then
        run flags (sequence others) (state.skip content.length) next
      else none := by
  induction content generalizing state with
  | nil => rfl
  | cons c content ih =>
      rw [List.map_cons, List.cons_append, run_sequence_cons, run, matchOne]
      cases holds : state.rest with
      | nil => rfl
      | cons d rest =>
          dsimp only
          rw [ih, startsLike, List.length_cons, MatchState.skip_of_rest holds]
          cases charMatches flags c d <;> rfl

theorem run_optional (body : PatternExpr) :
    run flags (iterate 0 (some 1) true body) state next =
      (run flags body state next).or (next state) := by
  -- The bound is reached after one round, whether or not the round has moved on.
  have stops (fuel : Nat) : (fun reached => matchRounds (run flags body) 0 (some 1) true (fuel + 1)
      (0 + 1) (some state.position) reached next) = next := by
    funext reached
    rw [matchRounds, if_neg (Nat.not_lt_zero _), if_neg fun more => absurd more.1 (by decide)]
  rw [run, Nat.zero_add, matchRounds, if_neg (Nat.not_lt_zero 0), if_pos ⟨rfl, nofun⟩, if_pos rfl,
    stops]
  cases run flags body state next <;> rfl

/-- A repetition without bounds tries another round first, if the last one has moved on. -/
theorem matchRounds_star {body : MatchState → MatchRest → Option MatchState} {last : Option Nat}
    (moved : last ≠ some state.position) (fuel count : Nat) :
    matchRounds body 0 none true (fuel + 1) count last state next =
      (body state fun reached =>
        matchRounds body 0 none true fuel (count + 1) (some state.position) reached next).or
          (next state) := by
  rw [matchRounds, if_neg (Nat.not_lt_zero count), if_pos ⟨rfl, moved⟩, if_pos rfl]
  cases body state fun reached =>
    matchRounds body 0 none true fuel (count + 1) (some state.position) reached next <;> rfl

theorem searchFrom_lineStart_eq_none (oneLine : flags.multiLine = false)
    (others : List PatternExpr) (position : Nat) (before : Char) (text : Text) :
    searchFrom flags (sequence (lineStart :: others)) position (some before) text = none := by
  -- With a character before it, a place is the start of a line only if lines are told apart.
  have unmatched (position : Nat) (before : Char) (text : Text) :
      matchAt flags (sequence (lineStart :: others)) ⟨position, some before, text, []⟩ = none := by
    rw [matchAt, run_sequence_cons, run]
    simp [matchPlace, oneLine]
  induction text generalizing position before with
  | nil => rw [searchFrom, unmatched]; rfl
  | cons c rest ih => rw [searchFrom, unmatched, ih]

/-- What begins at the start of a line is found at the beginning of the text or not at all. -/
theorem searchFrom_lineStart (oneLine : flags.multiLine = false) (others : List PatternExpr)
    (text : Text) :
    searchFrom flags (sequence (lineStart :: others)) 0 none text =
      (run flags (sequence others) (.start text) some).map fun final => (0, final) := by
  have matched : matchAt flags (sequence (lineStart :: others)) (.start text) =
      run flags (sequence others) (.start text) some := by
    rw [matchAt, run_sequence_cons]
    rfl
  cases text with
  | nil => rw [← matched]; rfl
  | cons c rest =>
      have start : MatchState.start (c :: rest) = ⟨0, none, c :: rest, []⟩ := rfl
      rw [← matched, searchFrom, searchFrom_lineStart_eq_none oneLine, start]
      cases matchAt flags (sequence (lineStart :: others)) ⟨0, none, c :: rest, []⟩ <;> rfl

end PatternExpr

end FeatureRunner
