import FeatureRunner.Text.Blank
import FeatureRunner.Text.Case
import FeatureRunner.Text.Word

/-!
# Pattern expressions

The expressions that patterns are made of, and the way they match.  Matching tries alternatives
in order and takes back choices that do not lead to a match of everything that follows: the
matcher of an expression gets the matcher of the rest, and the first way through decides.
-/

namespace FeatureRunner

/-- The switches that change how a whole pattern matches. -/
structure PatternFlags where
  ignoreCase : Bool
  multiLine : Bool
  dotAll : Bool
deriving DecidableEq, Repr

/-- A named class of characters. -/
inductive CharKind where
  | digit
  | blank
  | word
deriving DecidableEq, Repr

/-- Whether a character belongs to a named class. -/
def CharKind.has : CharKind → Char → Bool
  | digit => isDecimalDigit
  | blank => isBlank
  | word => isWordChar

/-- A part of a set of characters. -/
inductive SetItem where
  | char (c : Char)
  | range (first last : Char)
  | kind (class_ : CharKind) (negated : Bool)
deriving DecidableEq, Repr

namespace SetItem

def has : SetItem → Char → Bool
  | char expected, c => expected == c
  | range first last, c => first ≤ c && c ≤ last
  | kind class_ negated, c => class_.has c != negated

/-- The number of characters in the first plane, whose letters a set holds in all their forms. -/
def planeSize : Nat := 0x10000

/-- Whether a part of a set holds a character when case is ignored.  A single character of the
first plane stands for all its forms, and one beyond it only for characters whose lower-case form
it is.  A range holds every character that has a form in it; if it reaches beyond the first plane,
then also those whose upper-case form begins in it.  A class does not look at case. -/
def hasForm : SetItem → Char → Bool
  | char expected, c =>
    if expected.toNat < planeSize then sameLetter expected c else expected == lowerLetter c
  | range first last, c =>
    (range first last).has c || (letterVariants c).any (range first last).has ||
      (planeSize ≤ last.toNat && (upperLetter (lowerLetter c)).head?.any (range first last).has)
  | kind class_ negated, c => (kind class_ negated).has c

end SetItem

/-- A pattern expression.  Groups are numbered from one in the order of their opening
brackets. -/
inductive PatternExpr where
  | empty
  | char (c : Char)
  | otherChar (c : Char)
  | anyChar
  | set (negated : Bool) (items : List SetItem)
  | lineStart
  | lineEnd
  | textStart
  | textEnd
  | wordEdge (negated : Bool)
  | group (index : Nat) (body : PatternExpr)
  | seq (first second : PatternExpr)
  | alt (first second : PatternExpr)
  | iterate (least : Nat) (most : Option Nat) (greedy : Bool) (body : PatternExpr)
deriving DecidableEq, Repr

namespace PatternExpr

def sequence : List PatternExpr → PatternExpr
  | [] => empty
  | [part] => part
  | part :: next :: others => seq part (sequence (next :: others))

/-- The first of several sequences that matches. -/
def firstOf : List (List PatternExpr) → PatternExpr
  | [] => empty
  | [parts] => sequence parts
  | parts :: next :: others => alt (sequence parts) (firstOf (next :: others))

/-- The set of the given parts without repetitions.  A single character is an expression of its
own. -/
def ofSetItems (negated : Bool) (items : List SetItem) : PatternExpr :=
  match items.eraseDups with
  | [.char c] => if negated then otherChar c else char c
  | distinct => set negated distinct

/-- Whether an expression stands for one place or one character, so that sequences may share it
as their beginning. -/
def isAtomic : PatternExpr → Bool
  | empty => true
  | char _ => true
  | otherChar _ => true
  | anyChar => true
  | set _ _ => true
  | lineStart => true
  | lineEnd => true
  | textStart => true
  | textEnd => true
  | wordEdge _ => true
  | group _ _ => false
  | seq _ _ => false
  | alt _ _ => false
  | iterate _ _ _ _ => false

/-- The atomic parts with which all of several sequences begin, and what is left of the
sequences. -/
def sharedStart : List PatternExpr → List (List PatternExpr) →
    List PatternExpr × List (List PatternExpr)
  | [], others => ([], [] :: others)
  | part :: rest, others =>
    if part.isAtomic ∧ others.all fun other => other.head? = some part then
      let (shared, left) := sharedStart rest (others.map List.tail)
      (part :: shared, left)
    else ([], (part :: rest) :: others)

/-- The parts of the set that a sequence of one character or one set stands for. -/
def setItems? : List PatternExpr → Option (List SetItem)
  | [char c] => some [.char c]
  | [set false items] => some items
  | _ => none

/-- The parts of the sequence that stands for several alternative sequences: what they all begin
with, and then either one set, if every alternative is one character or set, or the
alternatives. -/
def alternatives : List (List PatternExpr) → List PatternExpr
  | [] => []
  | [parts] => parts
  | first :: second :: others =>
    let (shared, left) := sharedStart first (second :: others)
    let choice :=
      match left.mapM setItems? with
      | some items => ofSetItems false items.flatten
      | none => firstOf left
    shared ++ [choice]

end PatternExpr

/-- A place in a text while matching: how many characters lie before it, the last one of them,
the characters after it, and the spans of the groups closed so far, the newest first. -/
structure MatchState where
  position : Nat
  previous : Option Char
  rest : Text
  groups : List (Nat × Nat × Nat)

namespace MatchState

def start (text : Text) : MatchState := ⟨0, none, text, []⟩

def advance (state : MatchState) (c : Char) (rest : Text) : MatchState :=
  { state with position := state.position + 1, previous := some c, rest := rest }

/-- Whether exactly one of the characters around the place is a word character. -/
def atWordEdge (state : MatchState) : Bool :=
  (state.previous.any isWordChar) != (state.rest.head?.any isWordChar)

def inEmptyText (state : MatchState) : Bool :=
  state.previous.isNone && state.rest.isEmpty

end MatchState

/-- What remains to be matched after an expression: the final state, if there is a way. -/
abbrev MatchRest := MatchState → Option MatchState

namespace PatternExpr

/-- Whether a character of a pattern matches a character of the text. -/
def charMatches (flags : PatternFlags) (expected c : Char) : Bool :=
  if flags.ignoreCase then sameLetter expected c else expected == c

def setMatches (flags : PatternFlags) (negated : Bool) (items : List SetItem) (c : Char) :
    Bool :=
  (items.any fun item => if flags.ignoreCase then item.hasForm c else item.has c) != negated

def matchOne (test : Char → Bool) (state : MatchState) (next : MatchRest) :
    Option MatchState :=
  match state.rest with
  | [] => none
  | c :: rest => if test c then next (state.advance c rest) else none

def matchPlace (test : Bool) (state : MatchState) (next : MatchRest) : Option MatchState :=
  if test then next state else none

/-- Matches a body repeatedly.  `count` rounds lie behind, and `last` is the place where the
latest optional round began: a round that did not move away from it is the last one.  A greedy
repetition tries another round first, a lazy one tries to stop first.  The number of rounds is
bounded by `fuel`. -/
def matchRounds (body : MatchState → MatchRest → Option MatchState) (least : Nat)
    (most : Option Nat) (greedy : Bool) :
    (fuel : Nat) → (count : Nat) → (last : Option Nat) → MatchState → MatchRest →
      Option MatchState
  | 0, _, _, _, _ => none
  | fuel + 1, count, last, state, next =>
    if count < least then
      body state fun reached =>
        matchRounds body least most greedy fuel (count + 1) last reached next
    else if most.all (count < ·) ∧ last ≠ some state.position then
      if greedy then
        match body state fun reached =>
            matchRounds body least most greedy fuel (count + 1) (some state.position)
              reached next with
        | some final => some final
        | none => next state
      else
        match next state with
        | some final => some final
        | none =>
          body state fun reached =>
            matchRounds body least most greedy fuel (count + 1) (some state.position)
              reached next
    else next state

def run (flags : PatternFlags) : PatternExpr → MatchState → MatchRest → Option MatchState
  | empty, state, next => next state
  | char expected, state, next => matchOne (charMatches flags expected) state next
  | otherChar unwanted, state, next =>
    matchOne (fun c => !charMatches flags unwanted c) state next
  | anyChar, state, next => matchOne (fun c => flags.dotAll || c != '\n') state next
  | set negated items, state, next => matchOne (setMatches flags negated items) state next
  | lineStart, state, next =>
    matchPlace
      (state.previous.isNone || (flags.multiLine && state.previous == some '\n')) state next
  | lineEnd, state, next =>
    matchPlace
      (state.rest.isEmpty || state.rest == ['\n'] ||
        (flags.multiLine && state.rest.head? == some '\n')) state next
  | textStart, state, next => matchPlace state.previous.isNone state next
  | textEnd, state, next => matchPlace state.rest.isEmpty state next
  | wordEdge negated, state, next =>
    matchPlace (!state.inEmptyText && state.atWordEdge != negated) state next
  | group index body, state, next =>
    run flags body state fun reached =>
      next { reached with
        groups := (index, state.position, reached.position) :: reached.groups }
  | seq first second, state, next =>
    run flags first state fun reached => run flags second reached next
  | alt first second, state, next =>
    match run flags first state next with
    | some final => some final
    | none => run flags second state next
  | iterate least most greedy body, state, next =>
    matchRounds (run flags body) least most greedy (least + state.rest.length + 2) 0 none
      state next

/-- The first state in which the expression can end when it begins at the given state. -/
def matchAt (flags : PatternFlags) (expr : PatternExpr) (state : MatchState) :
    Option MatchState :=
  run flags expr state some

/-- The leftmost place from which the expression matches, and the state in which it then
ends. -/
def searchFrom (flags : PatternFlags) (expr : PatternExpr) (position : Nat)
    (previous : Option Char) : Text → Option (Nat × MatchState)
  | [] => (matchAt flags expr ⟨position, previous, [], []⟩).map fun final => (position, final)
  | c :: rest =>
    match matchAt flags expr ⟨position, previous, c :: rest, []⟩ with
    | some final => some (position, final)
    | none => searchFrom flags expr (position + 1) (some c) rest

end PatternExpr

end FeatureRunner
