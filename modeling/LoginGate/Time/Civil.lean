/-!
# Civil dates

Days are counted from 1970-01-01 in the Gregorian calendar, also before its introduction.  The
computation counts years from March, so that the leap day comes last, in cycles of 400 years.

## Main definitions

* `Civil` : a year, month and day.
* `Civil.ofDays`, `Civil.toDays` : the two directions.
* `Civil.isValid` : whether a date exists.
-/

namespace LoginGate

/-- A date. -/
structure Civil where
  year : Int
  month : Nat
  day : Nat
  deriving DecidableEq, Repr

namespace Civil

/-- Days from 0000-03-01 to 1970-01-01. -/
def epochShift : Int := 719468

/-- The date of a number of days. -/
def ofDays (days : Int) : Civil :=
  let shifted := days + epochShift
  let cycle := shifted.fdiv 146097
  let dayOfCycle := (shifted.fmod 146097).toNat
  let yearOfCycle :=
    (dayOfCycle - dayOfCycle / 1460 + dayOfCycle / 36524 - dayOfCycle / 146096) / 365
  let dayOfYear := dayOfCycle - (365 * yearOfCycle + yearOfCycle / 4 - yearOfCycle / 100)
  let part := (5 * dayOfYear + 2) / 153
  let month := if part < 10 then part + 3 else part - 9
  ⟨cycle * 400 + yearOfCycle + (if month ≤ 2 then 1 else 0), month,
    dayOfYear - (153 * part + 2) / 5 + 1⟩

/-- The number of days of a date. -/
def toDays (date : Civil) : Int :=
  let year := if date.month ≤ 2 then date.year - 1 else date.year
  let cycle := year.fdiv 400
  let yearOfCycle := (year.fmod 400).toNat
  let part := if date.month ≤ 2 then date.month + 9 else date.month - 3
  let dayOfYear := (153 * part + 2) / 5 + date.day - 1
  let dayOfCycle := yearOfCycle * 365 + yearOfCycle / 4 - yearOfCycle / 100 + dayOfYear
  cycle * 146097 + dayOfCycle - epochShift

/-- Whether a year has a leap day. -/
def isLeap (year : Int) : Bool := year % 4 == 0 && (year % 100 != 0 || year % 400 == 0)

/-- The days of a month. -/
def daysInMonth (year : Int) (month : Nat) : Nat :=
  if month = 2 then (if isLeap year then 29 else 28)
  else if month = 4 ∨ month = 6 ∨ month = 9 ∨ month = 11 then 30
  else 31

/-- Whether a date exists. -/
def isValid (date : Civil) : Bool :=
  1 ≤ date.month && date.month ≤ 12 && 1 ≤ date.day &&
    date.day ≤ daysInMonth date.year date.month

end Civil

end LoginGate
