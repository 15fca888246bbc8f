/-! # The calendar

The Gregorian calendar, extended over all years, with days numbered from 1 January 1970. Weekdays
are numbered from Monday, which is 0. `Date.ofDay` and `Date.day` go from a day number to a date
and back. -/

namespace ClockFace

/-- A date of the calendar. -/
structure Date where
  year : Int
  month : Nat
  day : Nat
  deriving DecidableEq, Repr, Inhabited

namespace Date

/-- The number of days from 1 January 1970 to the given date. Years are counted from 1 March, so
that the leap day ends a year. -/
def toDay (d : Date) : Int :=
  let year := if d.month ≤ 2 then d.year - 1 else d.year
  let cycle := year / 400
  let yearOfCycle := year % 400
  let monthFromMarch : Int := (d.month + 9) % 12
  let dayOfYear := (153 * monthFromMarch + 2) / 5 + d.day - 1
  let dayOfCycle := yearOfCycle * 365 + yearOfCycle / 4 - yearOfCycle / 100 + dayOfYear
  cycle * 146097 + dayOfCycle - 719468

/-- The date that lies the given number of days after 1 January 1970. -/
def ofDay (day : Int) : Date :=
  let shifted := day + 719468
  let cycle := shifted / 146097
  let dayOfCycle := shifted % 146097
  let yearOfCycle := (dayOfCycle - dayOfCycle / 1460 + dayOfCycle / 36524 - dayOfCycle / 146096) / 365
  let dayOfYear := dayOfCycle - (365 * yearOfCycle + yearOfCycle / 4 - yearOfCycle / 100)
  let monthFromMarch := (5 * dayOfYear + 2) / 153
  let month := (monthFromMarch + 2) % 12 + 1
  { year := yearOfCycle + cycle * 400 + (if month ≤ 2 then 1 else 0)
    month := month.toNat
    day := (dayOfYear - (153 * monthFromMarch + 2) / 5 + 1).toNat }

/-- The day of the week of a day number, Monday being 0. -/
def weekdayOf (day : Int) : Int :=
  (day + 3) % 7

/-- The day of the week, Monday being 0. -/
def weekday (d : Date) : Int :=
  weekdayOf d.toDay

/-- The day of the year, 1 January being 1. -/
def dayOfYear (d : Date) : Int :=
  d.toDay - toDay ⟨d.year, 1, 1⟩ + 1

/-- The days of a month. -/
def daysInMonth (year : Int) (month : Nat) : Int :=
  if month = 12 then 31 else toDay ⟨year, month + 1, 1⟩ - toDay ⟨year, month, 1⟩

end Date

end ClockFace
