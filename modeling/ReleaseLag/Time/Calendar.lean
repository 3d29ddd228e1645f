import ReleaseLag.Text.Basic

/-!
# `ReleaseLag.Time.Calendar`: days and civil dates

Days are counted from 1970-01-01 in the Gregorian calendar, carried on
without end in both directions. The year is taken to begin in March, so that
the leap day comes last and a month's first day is a linear function of its
number.
-/

set_option autoImplicit false

namespace ReleaseLag.Time

/-- A year, a month from 1 to 12 and a day of the month from 1. -/
structure Date where
  year : Int
  month : Nat
  day : Nat
  deriving DecidableEq, Repr

namespace Date

/-- A year with a 29th of February. -/
def isLeapYear (year : Int) : Bool :=
  year % 4 = 0 && (year % 100 ≠ 0 || year % 400 = 0)

/-- The number of days of a month; 0 for a number that is no month. -/
def daysInMonth (year : Int) (month : Nat) : Nat :=
  if month = 2 then if isLeapYear year then 29 else 28
  else if month = 4 ∨ month = 6 ∨ month = 9 ∨ month = 11 then 30
  else if 1 ≤ month ∧ month ≤ 12 then 31
  else 0

/-- The first and the last year that an instant can lie in. -/
def minYear : Int := -262143

@[inherit_doc minYear]
def maxYear : Int := 262142

/-- The date of these numbers, if the calendar has it and instants reach it. -/
def ofCivil? (year : Int) (month day : Nat) : Option Date :=
  if minYear ≤ year ∧ year ≤ maxYear ∧ 1 ≤ day ∧ day ≤ daysInMonth year month then
    some ⟨year, month, day⟩
  else none

/-- Days from 1970-01-01 to a date. -/
def toDays (date : Date) : Int :=
  let year := if date.month ≤ 2 then date.year - 1 else date.year
  let month := if date.month ≤ 2 then date.month + 9 else date.month - 3
  let era := year / 400
  let yearOfEra := year % 400
  let dayOfYear : Int := (153 * month + 2) / 5 + date.day - 1
  let dayOfEra := yearOfEra * 365 + yearOfEra / 4 - yearOfEra / 100 + dayOfYear
  era * 146097 + dayOfEra - 719468

/-- The date that lies a number of days after 1970-01-01. -/
def ofDays (days : Int) : Date :=
  let shifted := days + 719468
  let era := shifted / 146097
  let dayOfEra := (shifted % 146097).toNat
  let yearOfEra := (dayOfEra - dayOfEra / 1460 + dayOfEra / 36524 - dayOfEra / 146096) / 365
  let dayOfYear := dayOfEra - (365 * yearOfEra + yearOfEra / 4 - yearOfEra / 100)
  let month := (5 * dayOfYear + 2) / 153
  let day := dayOfYear - (153 * month + 2) / 5 + 1
  let year : Int := yearOfEra + era * 400
  if month < 10 then ⟨year, month + 3, day⟩ else ⟨year + 1, month - 9, day⟩

end Date

end ReleaseLag.Time
