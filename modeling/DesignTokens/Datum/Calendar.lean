import DesignTokens.Number.Spelling

/-!
# Dates and moments

Documents may hold calendar dates and moments. A moment is a date with a time of day and, if it is
given, the offset of its clock from universal time.

## Main Definitions

* `Date`, `Moment` — a day and a point of time
* `CalendarFault` — why numbers do not name a day or a point of time
* `Date.make`, `Moment.make` — checked construction
* `Date.isoText`, `Moment.isoText` — the usual numeric form
* `Moment.sameInstant` — whether two moments are the same point of time
-/

namespace DesignTokens

open Number

/-- A day of the calendar. -/
structure Date where
  /-- The year, from 1 on. -/
  year : Nat
  /-- The month, from 1 to 12. -/
  month : Nat
  /-- The day of the month, from 1 on. -/
  day : Nat
  deriving DecidableEq

/-- A point of time on some clock. -/
structure Moment where
  /-- The day. -/
  date : Date
  /-- The hour of the day. -/
  hour : Nat
  /-- The minute of the hour. -/
  minute : Nat
  /-- The second of the minute. -/
  second : Nat
  /-- Millionths of a second. -/
  microsecond : Nat
  /-- How many minutes the clock is ahead of universal time, if that is known. -/
  offset : Option Int
  deriving DecidableEq

/-- Why numbers do not name a day or a point of time. -/
inductive CalendarFault
  | year (given : Nat)
  | month
  | day
  | hour
  | minute
  | second
  /-- The offset is a day or more; it is given in minutes. -/
  | offset (minutes : Int)
  deriving DecidableEq

/-- A year that has a 29th of February. -/
def isLeapYear (year : Nat) : Bool :=
  year % 4 == 0 && (year % 100 != 0 || year % 400 == 0)

/-- How many days a month has. -/
def daysInMonth (year month : Nat) : Nat :=
  if month = 2 then if isLeapYear year then 29 else 28
  else if month = 4 ∨ month = 6 ∨ month = 9 ∨ month = 11 then 30
  else 31

/-- A span of minutes, told in whole days and the seconds that remain. -/
def spanText (minutes : Int) : String :=
  let seconds := minutes * 60
  let days := seconds.fdiv 86400
  let rest := seconds.fmod 86400
  let parts := (if days ≠ 0 then ["days=" ++ intText days] else []) ++
    (if rest ≠ 0 then ["seconds=" ++ intText rest] else [])
  "datetime.timedelta(" ++ (if parts.isEmpty then "0" else ", ".intercalate parts) ++ ")"

/-- What a reader is told. -/
def CalendarFault.message : CalendarFault → String
  | year given => "year " ++ natText given ++ " is out of range"
  | month => "month must be in 1..12"
  | day => "day is out of range for month"
  | hour => "hour must be in 0..23"
  | minute => "minute must be in 0..59"
  | second => "second must be in 0..59"
  | offset minutes =>
    "offset must be a timedelta strictly between -timedelta(hours=24) and timedelta(hours=24), not "
      ++ spanText minutes ++ "."

namespace Date

/-- The day with a year, a month and a day of the month. -/
def make (year month day : Nat) : Except CalendarFault Date :=
  if year = 0 ∨ 9999 < year then .error (.year year)
  else if month = 0 ∨ 12 < month then .error .month
  else if day = 0 ∨ daysInMonth year month < day then .error .day
  else .ok ⟨year, month, day⟩

/-- Year, month and day as figures. -/
def isoText (d : Date) : String :=
  String.ofList (paddedDigits 4 d.year ++ '-' :: paddedDigits 2 d.month ++
    '-' :: paddedDigits 2 d.day)

/-- How many days of earlier months a year has had. -/
def daysBeforeMonth (year month : Nat) : Nat :=
  (List.range (month - 1)).foldl (fun days m => days + daysInMonth year (m + 1)) 0

/-- The number of a day when days are counted from the first day of year 1. -/
def ordinal (d : Date) : Nat :=
  let past := d.year - 1
  past * 365 + past / 4 - past / 100 + past / 400 + daysBeforeMonth d.year d.month + d.day

end Date

namespace Moment

/-- The moment at a time of a day. -/
def make (date : Date) (hour minute second microsecond : Nat) (offset : Option Int) :
    Except CalendarFault Moment :=
  if 23 < hour then .error .hour
  else if 59 < minute then .error .minute
  else if 59 < second then .error .second
  else .ok ⟨date, hour, minute, second, microsecond, offset⟩

/-- An offset as a sign, hours and minutes. -/
def offsetText (minutes : Int) : List Char :=
  (if minutes < 0 then '-' else '+') :: paddedDigits 2 (minutes.natAbs / 60) ++
    ':' :: paddedDigits 2 (minutes.natAbs % 60)

/-- Date and time as figures with a separator between them. -/
def isoText (separator : Char) (m : Moment) : String :=
  m.date.isoText ++ String.ofList (separator :: paddedDigits 2 m.hour ++
    ':' :: paddedDigits 2 m.minute ++ ':' :: paddedDigits 2 m.second ++
    (if m.microsecond = 0 then [] else '.' :: paddedDigits 6 m.microsecond) ++
    (m.offset.map offsetText).getD [])

/-- Microseconds since the start of year 1 on the moment's own clock. -/
def clockReading (m : Moment) : Nat :=
  (((m.date.ordinal * 24 + m.hour) * 60 + m.minute) * 60 + m.second) * 1000000 + m.microsecond

/-- Whether two moments are the same point of time. One with an offset is never the same as one
without. -/
def sameInstant (a b : Moment) : Bool :=
  match a.offset, b.offset with
  | none, none => a == b
  | some x, some y =>
    (a.clockReading : Int) - x * 60000000 == b.clockReading - y * 60000000
  | _, _ => false

end Moment

end DesignTokens
