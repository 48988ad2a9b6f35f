import BatchScript.Text

/-!
# Dates and times

Dates of the Gregorian calendar from year 1 to 9999, times of day with microseconds, and offsets
from universal time in minutes.
-/
namespace BatchScript

/-- A day of the calendar. -/
structure Date where
  /-- The year. -/
  year : Nat
  /-- The month from one on. -/
  month : Nat
  /-- The day of the month from one on. -/
  day : Nat
  deriving DecidableEq, Repr

/-- A time of day. -/
structure TimeOfDay where
  /-- The hour. -/
  hour : Nat
  /-- The minute. -/
  minute : Nat
  /-- The second. -/
  second : Nat
  /-- Millionths of a second. -/
  micros : Nat
  deriving DecidableEq, Repr

/-- A date, a time of day, or both with or without an offset from universal time. -/
inductive Moment where
  /-- A date alone. -/
  | date (day : Date)
  /-- A time of day alone. -/
  | time (clock : TimeOfDay)
  /-- A date with a time, and the offset in minutes. -/
  | dateTime (day : Date) (clock : TimeOfDay) (offset : Option Int)
  deriving DecidableEq, Repr

/-- Whether a year has a leap day. -/
def isLeapYear (year : Nat) : Bool := year % 4 == 0 && (year % 100 != 0 || year % 400 == 0)

/-- The number of days of a month. -/
def daysInMonth (year month : Nat) : Nat :=
  if month = 2 then (if isLeapYear year then 29 else 28)
  else if month = 4 ∨ month = 6 ∨ month = 9 ∨ month = 11 then 30
  else 31

/-- Whether the calendar has such a day. -/
def Date.isValid (date : Date) : Bool :=
  1 ≤ date.year && date.year ≤ 9999 && 1 ≤ date.month && date.month ≤ 12 && 1 ≤ date.day &&
    date.day ≤ daysInMonth date.year date.month

/-- Two digits. -/
def twoDigits (n : Nat) : Text := Text.padZeros 2 (Text.ofNat n)

/-- Year, month and day with hyphens between them. -/
def Date.text (date : Date) : Text :=
  Text.padZeros 4 (Text.ofNat date.year) ++ '-' :: twoDigits date.month ++ '-' :: twoDigits date.day

/-- Hour, minute and second with colons between them, and six digits of a fraction unless it is
zero. -/
def TimeOfDay.text (time : TimeOfDay) : Text :=
  twoDigits time.hour ++ ':' :: twoDigits time.minute ++ ':' :: twoDigits time.second ++
    if time.micros = 0 then [] else '.' :: Text.padZeros 6 (Text.ofNat time.micros)

/-- The sign of an offset, its hours and its minutes. -/
def offsetText (offset : Int) : Text :=
  (if offset < 0 then '-' else '+') :: twoDigits (offset.natAbs / 60) ++ ':' ::
    twoDigits (offset.natAbs % 60)

/-- The moment in its standard form. -/
def Moment.text : Moment → Text
  | .date day => day.text
  | .time clock => clock.text
  | .dateTime day clock offset =>
    day.text ++ 'T' :: clock.text ++ (offset.map offsetText).getD []

end BatchScript
