import ClockFace.Time.Calendar
import Mathlib.Order.Monotone.Basic

/-! # Years of the calendar

The calendar counts the days of a year from 1 March (`Date.marchDay`), so that the leap day comes
last; the year that a date names begins with 1 January (`Date.newYear`). The years follow each
other without a gap, and a day lies in exactly one of them.

## Key results

- `Date.exists_marchDay`: the place of a day in a year that is counted from March
- `Date.newYear_bounds`, `Date.le_year_ofDay_iff`: the year of a day
- `Date.toDay_month`: where the months begin from March on
-/

namespace ClockFace

namespace Date

/-- The day number of 1 March of a year, the day that its days are counted from. -/
def marchDay (year : Int) : Int :=
  year / 400 * 146097 + year % 400 * 365 + year % 400 / 4 - year % 400 / 100 - 719468

theorem marchDay_succ (year : Int) :
    marchDay year + 365 ≤ marchDay (year + 1) ∧ marchDay (year + 1) ≤ marchDay year + 366 := by
  simp only [marchDay]
  omega

theorem toDay_eq_marchDay (year : Int) (month day : Nat) :
    toDay ⟨year, month, day⟩ = marchDay (if month ≤ 2 then year - 1 else year) +
      (153 * (((month + 9) % 12 : Nat) : Int) + 2) / 5 + day - 1 := by
  simp only [toDay, marchDay]
  omega

/-- A day of a cycle of 400 years lies in a year of the cycle. -/
theorem exists_yearOfCycle {r : Int} (h0 : 0 ≤ r) (h1 : r < 146097) :
    ∃ y u : Int, r = 365 * y + y / 4 - y / 100 + u ∧ (0 ≤ y ∧ y < 400) ∧ (0 ≤ u ∧ u ≤ 365) ∧
      (r - r / 1460 + r / 36524 - r / 146096) / 365 = y := by
  -- Centuries, blocks of four years and years; the last day of a cycle is in its last year
  let c := min (r / 36524) 3
  let b := (r - 36524 * c) / 1461
  let k := min ((r - 36524 * c - 1461 * b) / 365) 3
  have hc : r / 36524 - r / 146096 = c := by omega
  have hb : 0 ≤ b ∧ b ≤ 24 := by omega
  have hquads : (r / 1460 = 25 * c + b ∧ r - 36524 * c - 1461 * b < 1460 - b - 24 * c) ∨
      (r / 1460 = 25 * c + b + 1 ∧ 1460 - b - 24 * c ≤ r - 36524 * c - 1461 * b) := by
    omega
  have hyears : (100 * c + 4 * b + k) / 4 = 25 * c + b ∧ (100 * c + 4 * b + k) / 100 = c := by
    omega
  refine ⟨100 * c + 4 * b + k, r - 36524 * c - 1461 * b - 365 * k, ?_, by omega, by omega,
    by omega⟩
  rw [hyears.1, hyears.2]
  omega

/-- January is the eleventh month from March. -/
theorem january_iff {u : Int} (h0 : 0 ≤ u) (h1 : u ≤ 365) :
    ((5 * u + 2) / 153 + 2) % 12 + 1 ≤ 2 ↔ 306 ≤ u := by
  have hmonth : 0 ≤ (5 * u + 2) / 153 ∧ (5 * u + 2) / 153 ≤ 11 := by omega
  have hlate : 10 ≤ (5 * u + 2) / 153 ↔ 306 ≤ u := by omega
  generalize (5 * u + 2) / 153 = month at hmonth hlate
  omega

theorem marchDay_add (cycle : Int) {y : Int} (h0 : 0 ≤ y) (h1 : y < 400) :
    marchDay (y + cycle * 400) = cycle * 146097 + (365 * y + y / 4 - y / 100) - 719468 := by
  have hcycle : (y + cycle * 400) / 400 = cycle := by omega
  have hyear : (y + cycle * 400) % 400 = y := by omega
  rw [marchDay, hcycle, hyear]
  omega

/-- A day is counted from 1 March of a year, and lies in the next one from January on. -/
theorem exists_marchDay (day : Int) : ∃ year u : Int, day = marchDay year + u ∧ 0 ≤ u ∧ u ≤ 365 ∧
    (ofDay day).year = year + if 306 ≤ u then 1 else 0 := by
  have hday : day = (day + 719468) / 146097 * 146097 + (day + 719468) % 146097 - 719468 := by omega
  obtain ⟨y, u, hr, hy, hu, hyear⟩ := exists_yearOfCycle (r := (day + 719468) % 146097)
    (Int.emod_nonneg _ (by decide)) (Int.emod_lt_of_pos _ (by decide))
  have hdays : (day + 719468) % 146097 - (365 * y + y / 4 - y / 100) = u := by
    clear hyear hday
    omega
  refine ⟨y + (day + 719468) / 146097 * 400, u, ?_, hu.1, hu.2, ?_⟩
  · rw [marchDay_add _ hy.1 hy.2]
    clear hyear hr
    omega
  · simp only [ofDay, hyear, hdays, january_iff hu.1 hu.2]

/-- The day number of 1 January of a year. -/
def newYear (year : Int) : Int :=
  toDay ⟨year, 1, 1⟩

theorem newYear_eq_marchDay (year : Int) : newYear year = marchDay (year - 1) + 306 := by
  rw [newYear, toDay_eq_marchDay, if_pos (by decide)]
  omega

theorem newYear_lt_succ (year : Int) : newYear year < newYear (year + 1) := by
  have hyear := marchDay_succ (year - 1)
  rw [newYear_eq_marchDay, newYear_eq_marchDay, Int.add_sub_cancel]
  rw [Int.sub_add_cancel] at hyear
  omega

/-- The days of a year begin with 1 January. -/
theorem newYear_bounds (day : Int) :
    newYear (ofDay day).year ≤ day ∧ day < newYear ((ofDay day).year + 1) := by
  obtain ⟨year, u, rfl, h0, h1, hyear⟩ := exists_marchDay day
  have hnext := marchDay_succ year
  have hlast := marchDay_succ (year - 1)
  rw [hyear, newYear_eq_marchDay, newYear_eq_marchDay, Int.add_sub_cancel]
  rw [Int.sub_add_cancel] at hlast
  by_cases hu : 306 ≤ u
  · rw [if_pos hu, Int.add_sub_cancel]
    omega
  · rw [if_neg hu, Int.add_zero]
    omega

theorem newYear_le_newYear {a b : Int} (h : a ≤ b) : newYear a ≤ newYear b :=
  (strictMono_int_of_lt_succ newYear_lt_succ).monotone h

/-- A day lies in a year or a later one from 1 January of the year on. -/
theorem le_year_ofDay_iff {day year : Int} : year ≤ (ofDay day).year ↔ newYear year ≤ day := by
  obtain ⟨hfirst, hlast⟩ := newYear_bounds day
  refine ⟨fun h => (newYear_le_newYear h).trans hfirst, fun h => ?_⟩
  by_contra hlt
  have hmono := newYear_le_newYear (show (ofDay day).year + 1 ≤ year by omega)
  omega

/-- From March to December, months begin on fixed days of the year that is counted from March. -/
theorem toDay_month (year : Int) {month : Nat} (h : 3 ≤ month ∧ month ≤ 12) :
    toDay ⟨year, month, 1⟩ = marchDay year + (153 * ((month : Int) - 3) + 2) / 5 := by
  have hmonth : (((month + 9) % 12 : Nat) : Int) = (month : Int) - 3 := by omega
  rw [toDay_eq_marchDay, if_neg (by omega), hmonth]
  omega

end Date

end ClockFace
