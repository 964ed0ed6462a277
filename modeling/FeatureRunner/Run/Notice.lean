import FeatureRunner.Text.Basic

/-!
# Notices

A run reports on itself by notices, each with a level, the part of the program that gives it,
and a message.

Nobody puts a notice into words whose level is below the one listened to.  This matters for the
notices of the level debug, the only ones that tell of values which perhaps cannot be shown; as long
as nobody listens to them, their messages are made with the literals of such values.
-/

namespace FeatureRunner

/-- How important a notice is. -/
inductive NoticeLevel where
  | trace
  | debug
  | info
  | success
  | warning
  | error
  | critical
deriving DecidableEq, Repr

namespace NoticeLevel

def all : List NoticeLevel := [trace, debug, info, success, warning, error, critical]

def name : NoticeLevel → Text
  | trace => "TRACE".toList
  | debug => "DEBUG".toList
  | info => "INFO".toList
  | success => "SUCCESS".toList
  | warning => "WARNING".toList
  | error => "ERROR".toList
  | critical => "CRITICAL".toList

def ofName? (name : Text) : Option NoticeLevel := all.find? fun level => level.name = name

/-- The rank of a level: a more important level has a higher one. -/
def rank : NoticeLevel → Nat
  | trace => 5
  | debug => 10
  | info => 20
  | success => 25
  | warning => 30
  | error => 40
  | critical => 50

end NoticeLevel

/-- A notice. -/
structure Notice where
  level : NoticeLevel
  origin : Text
  message : Text
deriving DecidableEq, Repr

namespace Notice

/-- Whether a notice is at least as important as a level. -/
def reaches (notice : Notice) (level : NoticeLevel) : Bool := level.rank ≤ notice.level.rank

def timeText (hour minute second : Nat) : Text :=
  Text.join [':'] ([hour, minute, second].map fun part =>
    [Nat.digitChar (part / 10), Nat.digitChar (part % 10)])

/-- The line that shows a notice, given the text of its time. -/
def line (time : Text) (notice : Notice) : Text :=
  let name := notice.level.name
  time ++ " | ".toList ++ name ++ List.replicate (8 - name.length) ' ' ++ " | ".toList ++
    notice.origin ++ " - ".toList ++ notice.message ++ ['\n']

end Notice

end FeatureRunner
