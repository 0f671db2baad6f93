import MailDispatch.Decimal.Numeral

/-!
# Dates and times

A configuration file may hold a day, a time of day, or both together with or without an offset
from universal time. Each has a plain text, which is what a template shows, and a literal, which is
what a message shows where it must be told apart from a text.
-/

namespace MailDispatch

open Decimal (digits)

/-- A day of the calendar. -/
structure Day where
  year : Nat
  month : Nat
  day : Nat
  deriving DecidableEq, Repr

/-- A time of day. -/
structure Clock where
  hour : Nat
  minute : Nat
  second : Nat
  microsecond : Nat
  deriving DecidableEq, Repr

/-- A day, a time of day, or both with an optional offset from universal time in minutes. -/
inductive Moment where
  | day (d : Day)
  | clock (c : Clock)
  | instant (d : Day) (c : Clock) (offset : Option Int)
  deriving DecidableEq, Repr

/-- A number with at least `width` digits. -/
def padded (width n : Nat) : String :=
  String.ofList (List.replicate (width - (digits n).length) '0' ++ digits n)

/-! ## The calendar -/

/-- Whether the year has a leap day. -/
def isLeapYear (year : Nat) : Bool :=
  year % 4 == 0 && (year % 100 != 0 || year % 400 == 0)

/-- The number of days of a month. -/
def daysInMonth (year month : Nat) : Nat :=
  if month = 2 then (if isLeapYear year then 29 else 28)
  else if month = 4 ∨ month = 6 ∨ month = 9 ∨ month = 11 then 30
  else 31

/-- Whether the calendar has such a day. There is no year zero. -/
def Day.isValid (d : Day) : Bool :=
  1 ≤ d.year && 1 ≤ d.month && d.month ≤ 12 && 1 ≤ d.day && d.day ≤ daysInMonth d.year d.month

/-! ## Plain text -/

/-- A day as year, month and day. -/
def Day.text (d : Day) : String :=
  padded 4 d.year ++ "-" ++ padded 2 d.month ++ "-" ++ padded 2 d.day

/-- A time of day; microseconds only if there are any. -/
def Clock.text (c : Clock) : String :=
  padded 2 c.hour ++ ":" ++ padded 2 c.minute ++ ":" ++ padded 2 c.second ++
    if c.microsecond = 0 then "" else "." ++ padded 6 c.microsecond

/-- An offset from universal time. -/
def offsetText (minutes : Int) : String :=
  (if minutes < 0 then "-" else "+") ++
    padded 2 (minutes.natAbs / 60) ++ ":" ++ padded 2 (minutes.natAbs % 60)

/-- The plain text of a moment. -/
def Moment.text : Moment → String
  | .day d => d.text
  | .clock c => c.text
  | .instant d c offset =>
    d.text ++ " " ++ c.text ++ match offset with
      | none => ""
      | some minutes => offsetText minutes

/-! ## Literals -/

/-- A parenthesised list of arguments behind a name. -/
def call (name : String) (arguments : List String) : String :=
  name ++ "(" ++ String.intercalate ", " arguments ++ ")"

/-- The arguments of a day in a literal. -/
def Day.arguments (d : Day) : List String :=
  [padded 1 d.year, padded 1 d.month, padded 1 d.day]

/-- The arguments of a time of day in a literal: zero seconds and microseconds are left out at the
end. -/
def Clock.arguments (c : Clock) : List String :=
  [padded 1 c.hour, padded 1 c.minute] ++
    (if c.second = 0 ∧ c.microsecond = 0 then [] else [padded 1 c.second]) ++
    (if c.microsecond = 0 then [] else [padded 1 c.microsecond])

/-- An offset in a literal: a span of days and seconds, the days negative west of Greenwich. -/
def offsetLiteral (minutes : Int) : String :=
  if minutes = 0 then "datetime.timezone.utc"
  else if minutes < 0 then
    call "datetime.timezone" [call "datetime.timedelta"
      ["days=-1", "seconds=" ++ padded 1 (86400 - 60 * minutes.natAbs)]]
  else
    call "datetime.timezone" [call "datetime.timedelta"
      ["seconds=" ++ padded 1 (60 * minutes.natAbs)]]

/-- The literal of a moment. -/
def Moment.literal : Moment → String
  | .day d => call "datetime.date" d.arguments
  | .clock c => call "datetime.time" c.arguments
  | .instant d c offset =>
    call "datetime.datetime" (d.arguments ++ c.arguments ++ match offset with
      | none => []
      | some minutes => ["tzinfo=" ++ offsetLiteral minutes])

end MailDispatch
