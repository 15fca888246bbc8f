import ClockFace.Failure
import ClockFace.Time.Calendar

/-! # Weeks

Weeks as a locale counts them: they begin on its first weekday, and a week belongs to the period that
it begins in unless at least so many of its days lie in the next. -/

namespace ClockFace

/-- How weeks are counted: the first weekday, Monday being 0, and the least number of days that the
first week of a period has. -/
structure WeekRule where
  first : Int
  minDays : Int
  deriving DecidableEq, Repr

namespace WeekRule

/-- The number of the week that a day of a period lies in, for the day's place in the period, from 1,
and its weekday. -/
def weekNumber (r : WeekRule) (dayOfPeriod weekday : Int) : Int :=
  let firstDay := (weekday - r.first - dayOfPeriod + 1) % 7
  let whole := (dayOfPeriod + firstDay - 1) / 7
  if r.minDays ≤ 7 - firstDay then whole + 1 else whole

/-- The week of the month of a date. -/
def weekOfMonth (r : WeekRule) (d : Date) : Int :=
  r.weekNumber d.day d.weekday

/-- A year must be one that the calendar has. -/
def checkedYear (year : Int) : Except Failure Int :=
  if 1 ≤ year && year ≤ 9999 then .ok year else .error (.yearRange year)

/-- The days at the end of December belong to the first week of the next year. -/
def startsNextYear (r : WeekRule) (d : Date) : Bool :=
  let weekday := Date.weekday ⟨d.year + 1, 1, 1⟩
  r.weekNumber 1 weekday == 1 && 32 - (weekday - r.first) % 7 ≤ (d.day : Int)

/-- The week of the year of a date. Early days may lie in the last week of the year before, and late
ones in the first week of the next, so that year must exist. -/
def weekOfYear (r : WeekRule) (d : Date) : Except Failure Int := do
  let week := r.weekNumber d.dayOfYear d.weekday
  if week = 0 then
    let last : Date := ⟨← checkedYear (d.year - 1), 12, 31⟩
    return r.weekNumber last.dayOfYear last.weekday
  else if 52 < week then
    let _ ← checkedYear (d.year + 1)
    return if r.startsNextYear d then 1 else week
  else return week

/-- The year that the week of a date belongs to. -/
def weekYear (r : WeekRule) (d : Date) : Except Failure Int := do
  if d.month = 1 && d.day < 7 then
    return if 52 ≤ (← r.weekOfYear d) then d.year - 1 else d.year
  else if d.month = 12 && 25 < d.day then
    return if (← r.weekOfYear d) ≤ 2 then d.year + 1 else d.year
  else return d.year

end WeekRule

end ClockFace
