/-
# Dates and moments

A document may hold dates and moments in time.  A date is valid when its year, month and day name
a day of the Gregorian calendar; a moment has in addition a time of day and possibly its distance
from universal time.  The checks are made in a fixed order, and the first that fails is reported.
-/
import CssMargin.Decimal.Shortest
namespace CssMargin

/-- A day of the calendar. -/
structure Date where
  /-- The year, from 1 to 9999. -/
  year : Nat
  /-- The month, from 1 to 12. -/
  month : Nat
  /-- The day of the month, from 1. -/
  day : Nat
deriving DecidableEq, Repr

/-- A day with a time on it. -/
structure Moment where
  /-- The day. -/
  date : Date
  /-- The hour, from 0 to 23. -/
  hour : Nat
  /-- The minute, from 0 to 59. -/
  minute : Nat
  /-- The second, from 0 to 59. -/
  second : Nat
  /-- The millionth of a second. -/
  micro : Nat
  /-- How many seconds the place is ahead of universal time, if that is known. -/
  offset : Option Int
deriving DecidableEq, Repr

/-- What can be wrong with a day or a moment. -/
inductive CalendarFault where
  /-- There is no such year. -/
  | year (n : Nat)
  /-- There is no such month. -/
  | month
  /-- The month has no such day. -/
  | day
  /-- There is no such hour. -/
  | hour
  /-- There is no such minute. -/
  | minute
  /-- There is no such second. -/
  | second
  /-- The distance from universal time is a day or more. -/
  | offset (seconds : Int)
deriving DecidableEq, Repr

/-- Whether a year has a twenty-ninth of February. -/
def isLeapYear (y : Nat) : Bool := y % 4 == 0 && (y % 100 != 0 || y % 400 == 0)

/-- The number of days of a month. -/
def daysInMonth (y m : Nat) : Nat :=
  if m = 2 then (if isLeapYear y then 29 else 28)
  else if m = 4 ∨ m = 6 ∨ m = 9 ∨ m = 11 then 30
  else 31

/-- The number of days before a year, counted from the beginning of the year 1. -/
def daysBeforeYear (y : Nat) : Nat :=
  let p := y - 1
  p * 365 + p / 4 - p / 100 + p / 400

/-- The number of days before a month of a year. -/
def daysBeforeMonth (y m : Nat) : Nat :=
  (List.range (m - 1)).foldl (fun days k => days + daysInMonth y (k + 1)) 0

/-- The day with these numbers, if there is one. -/
def Date.of (year month day : Nat) : Except CalendarFault Date :=
  if year = 0 then .error (.year year)
  else if month = 0 ∨ 12 < month then .error .month
  else if day = 0 ∨ daysInMonth year month < day then .error .day
  else .ok ⟨year, month, day⟩

/-- Check a distance from universal time. -/
def checkOffset : Option Int → Except CalendarFault Unit
  | none => .ok ()
  | some s => if s.natAbs < 86400 then .ok () else .error (.offset s)

/-- The moment with these numbers, if there is one.  The distance from universal time is looked at
first, then the day, then the time. -/
def Moment.of (year month day hour minute second micro : Nat) (offset : Option Int) :
    Except CalendarFault Moment := do
  checkOffset offset
  let date ← Date.of year month day
  if 23 < hour then .error .hour
  else if 59 < minute then .error .minute
  else if 59 < second then .error .second
  else .ok ⟨date, hour, minute, second, micro, offset⟩

/-- The number of a day, counted from the first day of the year 1. -/
def Date.number (d : Date) : Nat :=
  daysBeforeYear d.year + daysBeforeMonth d.year d.month + d.day

/-- The millionths of a second from the beginning of the year 1 to the time shown. -/
def Moment.clock (m : Moment) : Int :=
  (((m.date.number * 24 + m.hour) * 60 + m.minute) * 60 + m.second) * 1000000 + m.micro

/-- Whether two moments are the same point in time.  Moments without a known distance from
universal time are compared among themselves only. -/
def Moment.same (a b : Moment) : Bool :=
  match a.offset, b.offset with
  | none, none => a.clock == b.clock
  | some s, some t => a.clock - s * 1000000 == b.clock - t * 1000000
  | _, _ => false

/-- The month and the day that come a number of days after the beginning of a month. -/
def walkMonths (year : Nat) : (left month days : Nat) → Nat × Nat
  | 0, month, days => (month, days + 1)
  | left + 1, month, days =>
    if days < daysInMonth year month then (month, days + 1)
    else walkMonths year left (month + 1) (days - daysInMonth year month)

/-- The day with a number.  Four hundred years have always the same number of days; so have a
hundred years, four years and one year, unless a leap day at their end makes them longer. -/
def Date.ofNumber (n : Nat) : Date :=
  let days := n - 1
  let cycles := days / 146097
  let days := days % 146097
  let centuries := min (days / 36524) 3
  let days := days - centuries * 36524
  let fours := days / 1461
  let days := days % 1461
  let ones := min (days / 365) 3
  let year := cycles * 400 + centuries * 100 + fours * 4 + ones + 1
  let (month, day) := walkMonths year 11 1 (days - ones * 365)
  ⟨year, month, day⟩

/-- The number of the first of January 1970. -/
def epochNumber : Nat := 719163

/-- The moment in universal time that is so many millionths of a second after the beginning of
1970. -/
def Moment.ofEpoch (micros : Nat) : Moment :=
  let seconds := micros / 1000000
  ⟨Date.ofNumber (epochNumber + seconds / 86400), seconds / 3600 % 24, seconds / 60 % 60,
    seconds % 60, micros % 1000000, some 0⟩

/-! ### Texts -/

/-- A number with zeros in front of it up to a number of digits. -/
def padded (width n : Nat) : String := String.ofList (padDigits width n)

/-- A day as year, month and day with hyphens between. -/
def Date.text (d : Date) : String :=
  padded 4 d.year ++ "-" ++ padded 2 d.month ++ "-" ++ padded 2 d.day

/-- A distance from universal time as sign, hours, minutes and, if there are any, seconds. -/
def offsetText (s : Int) : String :=
  let n := s.natAbs
  let body := padded 2 (n / 3600) ++ ":" ++ padded 2 (n / 60 % 60)
  (if s < 0 then "-" else "+") ++ body ++ (if n % 60 = 0 then "" else ":" ++ padded 2 (n % 60))

/-- A moment as day and time with a separator between them. -/
def Moment.text (separator : String) (m : Moment) : String :=
  m.date.text ++ separator ++ padded 2 m.hour ++ ":" ++ padded 2 m.minute ++ ":" ++
    padded 2 m.second ++ (if m.micro = 0 then "" else "." ++ padded 6 m.micro) ++
    (m.offset.map offsetText).getD ""

/-- A number of seconds as days and seconds within a day, as reports name it. -/
def durationText (s : Int) : String :=
  let days := s.fdiv 86400
  let rest := s.fmod 86400
  let parts := (if days = 0 then [] else ["days=" ++ toString days]) ++
    (if rest = 0 then [] else ["seconds=" ++ toString rest])
  "datetime.timedelta(" ++ (if parts.isEmpty then "0" else ", ".intercalate parts) ++ ")"

/-- The wording of a fault. -/
def CalendarFault.message : CalendarFault → String
  | .year n => "year " ++ toString n ++ " is out of range"
  | .month => "month must be in 1..12"
  | .day => "day is out of range for month"
  | .hour => "hour must be in 0..23"
  | .minute => "minute must be in 0..59"
  | .second => "second must be in 0..59"
  | .offset s => "offset must be a timedelta strictly between -timedelta(hours=24) and " ++
      "timedelta(hours=24), not " ++ durationText s ++ "."

end CssMargin
