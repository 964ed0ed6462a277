import FeatureRunner.Number.Literal
import FeatureRunner.Value.Basic

/-!
# Dates and times

Dates, times of day, and both together with an optional distance from universal time.  A date has
to exist in the calendar.
-/

namespace FeatureRunner

namespace Toml

/-- A day of the calendar. -/
structure Day where
  year : Nat
  month : Nat
  day : Nat
deriving DecidableEq, Repr

/-- A time of day. -/
structure Clock where
  hour : Nat
  minute : Nat
  second : Nat
  microsecond : Nat
deriving DecidableEq, Repr

/-- The number of the given count of digits at the beginning of a text, if it lies between two
bounds. -/
def readCount (count least most : Nat) (text : Text) : Option (Nat × Text) :=
  let digits := text.take count
  let number := numberIn 10 digits
  if digits.length = count ∧ digits.all (isDigitIn 10) ∧ least ≤ number ∧ number ≤ most then
    some (number, text.drop count)
  else none

def expect (expected : Char) : Text → Option Text
  | c :: rest => if c = expected then some rest else none
  | [] => none

/-- The form of a date; whether the day exists is not looked at. -/
def readDay (text : Text) : Option (Day × Text) := do
  let (year, rest) ← readCount 4 0 9999 text
  let rest ← expect '-' rest
  let (month, rest) ← readCount 2 1 12 rest
  let rest ← expect '-' rest
  let (day, rest) ← readCount 2 1 31 rest
  return (⟨year, month, day⟩, rest)

/-- The microseconds that the digits after a point write, if there are any. -/
def readMicroseconds : Text → Nat × Text
  | '.' :: rest =>
    let digits := rest.takeWhile (isDigitIn 10)
    if digits = [] then (0, '.' :: rest)
    else
      let known := digits.take 6
      (numberIn 10 known * Nat.pow 10 (6 - known.length), rest.dropWhile (isDigitIn 10))
  | text => (0, text)

def readClock (text : Text) : Option (Clock × Text) := do
  let (hour, rest) ← readCount 2 0 23 text
  let rest ← expect ':' rest
  let (minute, rest) ← readCount 2 0 59 rest
  let rest ← expect ':' rest
  let (second, rest) ← readCount 2 0 59 rest
  let (microsecond, rest) := readMicroseconds rest
  return (⟨hour, minute, second, microsecond⟩, rest)

def readDistance : Text → Option (Int × Text)
  | 'Z' :: rest => some (0, rest)
  | 'z' :: rest => some (0, rest)
  | c :: rest =>
    if c = '+' ∨ c = '-' then do
      let (hours, rest) ← readCount 2 0 23 rest
      let rest ← expect ':' rest
      let (minutes, rest) ← readCount 2 0 59 rest
      let distance : Int := hours * 60 + minutes
      return (if c = '-' then -distance else distance, rest)
    else none
  | [] => none

def daysIn (year month : Nat) : Nat :=
  if month = 2 then
    if year % 4 = 0 ∧ (year % 100 ≠ 0 ∨ year % 400 = 0) then 29 else 28
  else if month ∈ [4, 6, 9, 11] then 30
  else 31

def Day.exists (day : Day) : Bool := 1 ≤ day.year && day.day ≤ daysIn day.year day.month

def listed (numbers : List Nat) : Text := Text.join ", ".toList (numbers.map Text.ofNat)

/-- The numbers of a time of day, without what is zero at its end; two of them are always
kept. -/
def Clock.numbers (clock : Clock) : List Nat :=
  if clock.microsecond ≠ 0 then [clock.hour, clock.minute, clock.second, clock.microsecond]
  else if clock.second ≠ 0 then [clock.hour, clock.minute, clock.second]
  else [clock.hour, clock.minute]

/-- How a distance from universal time is shown. -/
def shownDistance (minutes : Int) : Text :=
  if minutes = 0 then "datetime.timezone.utc".toList
  else
    let days : Text := if minutes < 0 then "days=-1, ".toList else []
    let seconds := (if minutes < 0 then minutes + 1440 else minutes) * 60
    "datetime.timezone(datetime.timedelta(".toList ++ days ++ "seconds=".toList ++
      Text.ofInt seconds ++ "))".toList

def Day.shown (day : Day) : Text :=
  "datetime.date(".toList ++ listed [day.year, day.month, day.day] ++ [')']

def Clock.shown (clock : Clock) : Text :=
  "datetime.time(".toList ++ listed clock.numbers ++ [')']

def shownMoment (day : Day) (clock : Clock) (distance : Option Int) : Text :=
  "datetime.datetime(".toList ++
    listed ([day.year, day.month, day.day] ++ clock.numbers) ++
    (match distance with
      | some minutes => ", tzinfo=".toList ++ shownDistance minutes
      | none => []) ++ [')']

/-- The time of day that follows a date after a single letter or blank, with its distance. -/
def readDayClock (text : Text) : Option ((Clock × Option Int) × Text) :=
  match text with
  | c :: rest =>
    if c = 'T' ∨ c = 't' ∨ c = ' ' then
      (readClock rest).map fun found =>
        match readDistance found.2 with
        | some (minutes, rest) => ((found.1, some minutes), rest)
        | none => ((found.1, none), found.2)
    else none
  | [] => none

/-- A date or time at the beginning of a text: what it shows, or nothing inside if the day does
not exist. -/
def readMoment (text : Text) : Option (Option Value × Text) :=
  match readDay text with
  | some (day, rest) =>
    match readDayClock rest with
    | some ((clock, distance), rest) =>
      some (if day.exists then some (.moment (shownMoment day clock distance)) else none, rest)
    | none => some (if day.exists then some (.moment day.shown) else none, rest)
  | none => (readClock text).map fun found => (some (.moment found.1.shown), found.2)

end Toml

end FeatureRunner
