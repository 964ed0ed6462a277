import FeatureRunner.Pattern.Reader
import FeatureRunner.Text.Quoted

/-!
# Patterns

A step definition says by a pattern which step texts it is for.  A pattern is given either as
literal text or as an expression that is used as it is.  Literal text stands for the pattern
that finds it at the beginning of a step text, without regard to case and with an optional
colon after it; a colon at the end of the literal text itself, with blanks after it, does not
count.
-/

namespace FeatureRunner

/-- A pattern, ready to be searched for. -/
structure Pattern where
  source : Text
  flags : PatternFlags
  expr : PatternExpr
  groupCount : Nat
deriving DecidableEq, Repr

/-- A place where a pattern matches: its span, and the text of each group that took part. -/
structure PatternMatch where
  first : Nat
  last : Nat
  groups : List (Option Text)
deriving DecidableEq, Repr

namespace Pattern

/-- The pattern of a source, if the source can be read. -/
def ofSource? (source : Text) (flags : PatternFlags) : Option Pattern :=
  (PatternReader.read source).map fun found => ⟨source, flags, found.1, found.2⟩

def flagLetters (pattern : Pattern) : Text :=
  (if pattern.flags.ignoreCase then ['i'] else []) ++
    (if pattern.flags.multiLine then ['m'] else []) ++
    (if pattern.flags.dotAll then ['s'] else [])

def slice (text : Text) (span : Nat × Nat) : Text :=
  (text.drop span.1).take (span.2 - span.1)

def search (pattern : Pattern) (text : Text) : Option PatternMatch :=
  (pattern.expr.searchFrom pattern.flags 0 none text).map fun found =>
    { first := found.1
      last := found.2.position
      groups := (List.range pattern.groupCount).map fun index =>
        (found.2.groups.lookup (index + 1)).map (slice text) }

/-- The characters that a pattern source writes after a backslash to mean themselves. -/
def specialChars : List Char := "()[]\x7b\x7d?*+-|^$\\.&~# \t\n\r\x0b\x0c".toList

def escape (text : Text) : Text :=
  text.flatMap fun c => if c ∈ specialChars then ['\\', c] else [c]

/-- A text without the colon at its end and the blanks after that colon. -/
def dropTrailingColon (text : Text) : Text :=
  match text.reverse.dropWhile isBlank with
  | ':' :: before => before.reverse
  | _ => text

def ofLiteral (text : Text) : Pattern :=
  let content := dropTrailingColon text
  { source := '^' :: escape content ++ ":?".toList
    flags := ⟨true, false, false⟩
    expr := .sequence
      (.lineStart :: content.map .char ++ [.iterate 0 (some 1) true (.char ':')])
    groupCount := 0 }

/-- A pattern as an expression that would make it. -/
def literal (pattern : Pattern) : Text :=
  let switches := Text.join ['|']
    ((if pattern.flags.ignoreCase then ["re.IGNORECASE".toList] else []) ++
      (if pattern.flags.multiLine then ["re.MULTILINE".toList] else []) ++
      (if pattern.flags.dotAll then ["re.DOTALL".toList] else []))
  "re.compile(".toList ++ pattern.source.quoted.take 200 ++
    (if switches = [] then [] else ", ".toList ++ switches) ++ [')']

end Pattern

/-- A pattern as a step definition gives it. -/
inductive PatternSource where
  | text (content : Text)
  | ready (pattern : Pattern)
deriving DecidableEq, Repr

namespace PatternSource

def compile : PatternSource → Pattern
  | text content => .ofLiteral content
  | ready pattern => pattern

/-- Whether the pattern is used as it was given. -/
def isReady : PatternSource → Bool
  | text _ => false
  | ready _ => true

def literal : PatternSource → Text
  | text content => content.quoted
  | ready pattern => pattern.literal

end PatternSource

end FeatureRunner
