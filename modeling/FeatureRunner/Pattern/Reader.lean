import FeatureRunner.Number.Literal
import FeatureRunner.Pattern.Expr

/-!
# Reading pattern sources

The source of a pattern is read by descent: alternatives hold sequences, sequences hold repeated
atoms, and an atom may be a bracketed expression again, which is read as the list of its parts.
The readers of expressions hand on the number of groups so far and the rest of the source.
Every round of the descent uses up fuel, of which a source gets a multiple of its length.
-/

namespace FeatureRunner

namespace PatternReader

/-- The value of the given number of hexadecimal digits at the beginning of a text. -/
def hexadecimal? (count : Nat) (source : Text) : Option (Char × Text) :=
  let digits := source.take count
  if digits.length = count ∧ digits.all (isDigitIn 16) ∧ numberIn 16 digits < 0x110000 then
    some (Text.character (numberIn 16 digits), source.drop count)
  else none

/-- The character that an escaped letter stands for both inside and outside of sets. -/
def escapedChar? (letter : Char) (rest : Text) : Option (Char × Text) :=
  match letter with
  | 'n' => some ('\n', rest)
  | 't' => some ('\t', rest)
  | 'r' => some ('\r', rest)
  | 'f' => some ('\x0c', rest)
  | 'v' => some ('\x0b', rest)
  | 'a' => some ('\x07', rest)
  | '0' => some ('\x00', rest)
  | 'x' => hexadecimal? 2 rest
  | 'u' => hexadecimal? 4 rest
  | 'U' => hexadecimal? 8 rest
  | c => if c.isAlphanum then none else some (c, rest)

/-- The class of characters that an escaped letter stands for. -/
def escapedKind? : Char → Option SetItem
  | 'd' => some (.kind .digit false)
  | 'D' => some (.kind .digit true)
  | 's' => some (.kind .blank false)
  | 'S' => some (.kind .blank true)
  | 'w' => some (.kind .word false)
  | 'W' => some (.kind .word true)
  | _ => none

/-- The expression of an escape, whose letter follows the backslash. -/
def readEscape : Text → Option (PatternExpr × Text)
  | [] => none
  | 'b' :: rest => some (.wordEdge false, rest)
  | 'B' :: rest => some (.wordEdge true, rest)
  | 'A' :: rest => some (.textStart, rest)
  | 'Z' :: rest => some (.textEnd, rest)
  | letter :: rest =>
    match escapedKind? letter with
    | some item => some (.set false [item], rest)
    | none => (escapedChar? letter rest).map fun found => (.char found.1, found.2)

/-- One part of a set: a class or a single character. -/
def readSetAtom : Text → Option (SetItem × Text)
  | [] => none
  | '\\' :: 'b' :: rest => some (.char '\x08', rest)
  | '\\' :: letter :: rest =>
    match escapedKind? letter with
    | some item => some (item, rest)
    | none => (escapedChar? letter rest).map fun found => (.char found.1, found.2)
  | ['\\'] => none
  | c :: rest => some (.char c, rest)

/-- The parts of a set up to its closing bracket.  A closing bracket in the first place is an
ordinary character, and so is a hyphen that does not stand between two characters. -/
def readSetItems : (fuel : Nat) → (first : Bool) → Text → Option (List SetItem × Text)
  | 0, _, _ => none
  | _ + 1, _, [] => none
  | fuel + 1, first, c :: rest =>
    if c = ']' ∧ !first then some ([], rest)
    else do
      let (item, after) ← readSetAtom (c :: rest)
      match after with
      | '-' :: ']' :: after =>
        return ([item, .char '-'], after)
      | '-' :: after =>
        let (upper, after) ← readSetAtom after
        match item, upper with
        | .char low, .char high =>
          if low ≤ high then
            let (others, after) ← readSetItems fuel false after
            return (.range low high :: others, after)
          else none
        | _, _ => none
      | after =>
        let (others, after) ← readSetItems fuel false after
        return (item :: others, after)

def readSet (source : Text) : Option (PatternExpr × Text) :=
  let (negated, source) : Bool × Text :=
    match source with
    | '^' :: rest => (true, rest)
    | _ => (false, source)
  (readSetItems (source.length + 1) true source).map fun found =>
    (.ofSetItems negated found.1, found.2)

/-- The bounds of a counted repetition, after its opening brace. -/
def readBounds (source : Text) : Option ((Nat × Option Nat) × Text) :=
  let least := source.takeWhile (isDigitIn 10)
  match source.dropWhile (isDigitIn 10) with
  | '}' :: rest =>
    if least = [] then none else some ((numberIn 10 least, some (numberIn 10 least)), rest)
  | ',' :: rest =>
    let most := rest.takeWhile (isDigitIn 10)
    match rest.dropWhile (isDigitIn 10) with
    | '}' :: rest =>
      some ((numberIn 10 least, if most = [] then none else some (numberIn 10 most)), rest)
    | _ => none
  | _ => none

/-- The bounds of the repetition that begins a text, if one does. -/
def readQuantifier : Text → Option ((Nat × Option Nat) × Text)
  | '?' :: rest => some ((0, some 1), rest)
  | '*' :: rest => some ((0, none), rest)
  | '+' :: rest => some ((1, none), rest)
  | '\x7b' :: rest => readBounds rest
  | _ => none

/-- Whether a source begins with a test of a place, which cannot be repeated. -/
def beginsWithPlaceTest : Text → Bool
  | '^' :: _ => true
  | '$' :: _ => true
  | '\\' :: letter :: _ => letter ∈ ['b', 'B', 'A', 'Z']
  | _ => false

/-- The parts of an atom, or the repetition of them that follows it if it may have one. -/
def readRepetition (repeatable : Bool) (atom : List PatternExpr) (source : Text) :
    Option (List PatternExpr × Text) :=
  match readQuantifier source with
  | none => some (atom, source)
  | some ((least, most), rest) =>
    let (greedy, rest) : Bool × Text :=
      match rest with
      | '?' :: after => (false, after)
      | _ => (true, rest)
    if !repeatable ∨ most.any (· < least) ∨ (readQuantifier rest).isSome then none
    else some ([.iterate least most greedy (.sequence atom)], rest)

/-- The name of a group, after the text that announces it. -/
def skipGroupName (source : Text) : Option Text :=
  match source.dropWhile (· ≠ '>') with
  | _ :: rest => some rest
  | [] => none

mutual

/-- Alternatives up to a closing bracket or the end. -/
def readAlternatives : (fuel : Nat) → Nat → Text →
    Option (List (List PatternExpr) × Nat × Text)
  | 0, _, _ => none
  | fuel + 1, groups, source => do
    let (parts, groups, rest) ← readParts fuel groups source
    match rest with
    | '|' :: rest =>
      let (others, groups, rest) ← readAlternatives fuel groups rest
      return (parts :: others, groups, rest)
    | _ => return ([parts], groups, rest)

/-- The parts of a sequence.  A bracketed expression that is neither a group nor repeated has its
parts among those of the sequence. -/
def readParts : (fuel : Nat) → Nat → Text → Option (List PatternExpr × Nat × Text)
  | 0, _, _ => none
  | _ + 1, groups, [] => some ([], groups, [])
  | fuel + 1, groups, c :: rest =>
    if c = '|' ∨ c = ')' then some ([], groups, c :: rest)
    else do
      let (atom, groups, after) ← readAtom fuel groups (c :: rest)
      let (parts, after) ← readRepetition (!beginsWithPlaceTest (c :: rest)) atom after
      let (others, groups, after) ← readParts fuel groups after
      return (parts ++ others, groups, after)

def readAtom : (fuel : Nat) → Nat → Text → Option (List PatternExpr × Nat × Text)
  | 0, _, _ => none
  | _ + 1, _, [] => none
  | fuel + 1, groups, c :: rest =>
    match c with
    | '.' => some ([.anyChar], groups, rest)
    | '^' => some ([.lineStart], groups, rest)
    | '$' => some ([.lineEnd], groups, rest)
    | '\\' => (readEscape rest).map fun found => ([found.1], groups, found.2)
    | '[' => (readSet rest).map fun found => ([found.1], groups, found.2)
    | '(' =>
      match rest with
      | '?' :: ':' :: rest => readBracketed fuel groups rest
      | '?' :: 'P' :: '<' :: rest => do
        let rest ← skipGroupName rest
        readGroup fuel groups rest
      | '?' :: _ => none
      | _ => readGroup fuel groups rest
    | _ =>
      if (readQuantifier (c :: rest)).isSome then none else some ([.char c], groups, rest)

/-- The inside of a group and its closing bracket. -/
def readGroup : (fuel : Nat) → Nat → Text → Option (List PatternExpr × Nat × Text)
  | 0, _, _ => none
  | fuel + 1, groups, source => do
    let index := groups + 1
    let (body, groups, rest) ← readBracketed fuel index source
    return ([.group index (.sequence body)], groups, rest)

/-- The parts of an expression and the closing bracket after it. -/
def readBracketed : (fuel : Nat) → Nat → Text → Option (List PatternExpr × Nat × Text)
  | 0, _, _ => none
  | fuel + 1, groups, source => do
    let (body, groups, rest) ← readAlternatives fuel groups source
    match rest with
    | ')' :: rest => return (PatternExpr.alternatives body, groups, rest)
    | _ => none

end

/-- The expression of a whole source, and the number of its groups. -/
def read (source : Text) : Option (PatternExpr × Nat) :=
  match readAlternatives (5 * source.length + 5) 0 source with
  | some (found, groups, []) => some (.sequence (PatternExpr.alternatives found), groups)
  | _ => none

end PatternReader

end FeatureRunner
