/-!
# The Gregorian calendar

Dates and day numbers. The calendar runs over all integer years, with a year zero; day 0 is 1
January 1970. Years are counted from March, so that the leap day ends one, and grouped by four
hundred.
-/

namespace ChainFeed

/-- A date of the calendar. -/
structure Date where
  year : Int
  month : Nat
  day : Nat
  deriving DecidableEq, Repr

namespace Date

/-- Whether a year has a leap day. -/
def isLeapYear (year : Int) : Bool :=
  year % 4 = 0 && (year % 100 != 0 || year % 400 = 0)

/-- The number of days of a month. -/
def daysInMonth (year : Int) (month : Nat) : Nat :=
  if month = 2 then if isLeapYear year then 29 else 28
  else if month = 4 || month = 6 || month = 9 || month = 11 then 30
  else 31

/-- Whether the month has the day. -/
def isValid (date : Date) : Bool :=
  1 ≤ date.month && date.month ≤ 12 && 1 ≤ date.day && date.day ≤ daysInMonth date.year date.month

/-- The number of days from 1 January 1970. -/
def toDays (date : Date) : Int :=
  let year := if date.month ≤ 2 then date.year - 1 else date.year
  let month : Int := if date.month ≤ 2 then date.month + 9 else date.month - 3
  let era := year / 400
  let yearOfEra := year % 400
  let dayOfYear := (153 * month + 2) / 5 + date.day - 1
  let dayOfEra := yearOfEra * 365 + yearOfEra / 4 - yearOfEra / 100 + dayOfYear
  era * 146097 + dayOfEra - 719468

/-- The date of a day number. -/
def ofDays (days : Int) : Date :=
  let shifted := days + 719468
  let era := shifted / 146097
  let dayOfEra := shifted % 146097
  let yearOfEra := (dayOfEra - dayOfEra / 1460 + dayOfEra / 36524 - dayOfEra / 146096) / 365
  let dayOfYear := dayOfEra - (365 * yearOfEra + yearOfEra / 4 - yearOfEra / 100)
  let month := (5 * dayOfYear + 2) / 153
  let day := dayOfYear - (153 * month + 2) / 5 + 1
  let year := yearOfEra + era * 400
  if month < 10 then ⟨year, (month + 3).toNat, day.toNat⟩
  else ⟨year + 1, (month - 9).toNat, day.toNat⟩

end Date

end ChainFeed
