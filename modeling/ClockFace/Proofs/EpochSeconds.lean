import ClockFace.Proofs.CalendarYears
import ClockFace.Proofs.DoubleRounding
import ClockFace.Run.Clock
import Mathlib.Tactic.NormNum
import Mathlib.Tactic.Ring

/-! # Seconds in double precision as moments

Seconds of double precision become a moment in microseconds: the whole seconds are kept, and their
fraction is turned into microseconds and rounded (`Instant.microsOfSeconds`). The result is at most
a little more than half a microsecond off. It is then a moment if the calendar has it, and how it
fails otherwise depends on whether the machine has a calendar for it.

## Key results

- `momentOfParts_eq_ok_iff`, `kind_of_momentOfParts`: whole seconds as a moment, and the failures
- `momentOfSeconds_eq_ok_iff`: seconds of double precision as a moment
- `abs_microsOfSeconds_sub_le`: how far off the microseconds are
- `microsOfSeconds_eq`, `microsOfSeconds_ne`: the microseconds of seconds near to a number of them
-/

namespace ClockFace

open Number

namespace Instant

/-! ## Whole seconds -/

/-- The first second of the first year that the machine's calendar counts. -/
def firstMachineSecond : Int :=
  Date.newYear firstMachineYear * daySeconds

/-- The first second after the last year that the machine's calendar counts. -/
def endMachineSecond : Int :=
  Date.newYear (lastMachineYear + 1) * daySeconds

theorem firstMachineSecond_eq : firstMachineSecond = -67768040609740800 := by decide

theorem endMachineSecond_eq : endMachineSecond = 67768036191676800 := by decide

theorem year_lt_iff {seconds year : Int} :
    (Date.ofDay (seconds / daySeconds)).year < year ↔ seconds < Date.newYear year * daySeconds := by
  rw [← not_le, Date.le_year_ofDay_iff]
  simp only [daySeconds]
  omega

theorem lt_year_iff {seconds year : Int} :
    year < (Date.ofDay (seconds / daySeconds)).year ↔
      Date.newYear (year + 1) * daySeconds ≤ seconds := by
  rw [← not_lt, ← year_lt_iff]
  omega

/-- What whole seconds are, by the years that they lie in. -/
theorem momentOfParts_eq (seconds micros : Int) :
    momentOfParts seconds micros =
      if seconds < -epochBound ∨ epochBound ≤ seconds then .error .epochRange
      else if seconds < firstMachineSecond ∨ endMachineSecond ≤ seconds then .error .machineYear
      else if seconds < -62135596800 ∨ 253402300800 ≤ seconds then
        .error (.yearRange (machineYear (Date.ofDay (seconds / daySeconds)).year))
      else .ok (seconds * secondMicros + micros) := by
  have hfirst : Date.newYear 1 * daySeconds = -62135596800 := by decide
  have hend : Date.newYear (9999 + 1) * daySeconds = 253402300800 := by decide
  simp only [momentOfParts, Bool.or_eq_true, decide_eq_true_eq, year_lt_iff, lt_year_iff, hfirst,
    hend]
  rfl

/-- Whole seconds are a moment in the years 1 to 9999. -/
theorem momentOfParts_eq_ok_iff {seconds micros moment : Int} (h0 : 0 ≤ micros)
    (h1 : micros < secondMicros) : momentOfParts seconds micros = .ok moment ↔
      inCalendar moment = true ∧ moment = seconds * secondMicros + micros := by
  rw [momentOfParts_eq, inCalendar, Bool.and_eq_true, decide_eq_true_eq, decide_eq_true_eq]
  simp only [firstMachineSecond_eq, endMachineSecond_eq, epochBound, firstWall, endWall,
    secondMicros] at *
  split
  · simp only [reduceCtorEq, false_iff]
    omega
  · split
    · simp only [reduceCtorEq, false_iff]
      omega
    · split
      · simp only [reduceCtorEq, false_iff]
        omega
      · rw [Except.ok.injEq]
        omega

/-- Seconds that are no moment fail by their value as long as the machine's calendar has them. -/
theorem kind_of_momentOfParts {seconds micros : Int} {e : Failure}
    (h : momentOfParts seconds micros = .error e) :
    e.kind = .value ↔ firstMachineSecond ≤ seconds ∧ seconds < endMachineSecond := by
  rw [momentOfParts_eq] at h
  simp only [firstMachineSecond_eq, endMachineSecond_eq, epochBound] at *
  split at h
  · obtain rfl := Except.error.inj h
    simp only [Failure.kind, reduceCtorEq, false_iff]
    omega
  · split at h
    · obtain rfl := Except.error.inj h
      simp only [Failure.kind, reduceCtorEq, false_iff]
      omega
    · split at h
      · obtain rfl := Except.error.inj h
        simp only [Failure.kind, true_iff]
        omega
      · cases h

/-! ## Seconds of double precision -/

/-- The microseconds of the fraction of seconds, in double precision. -/
def fractionMicros (seconds : Rat) : Rat :=
  (nearestDouble? ((seconds - truncate seconds) * secondMicros)).getD 0

/-- The microseconds that seconds of double precision stand for. -/
def microsOfSeconds (seconds : Rat) : Int :=
  truncate seconds * secondMicros + roundHalfEven (fractionMicros seconds)

/-- How far off the microseconds of a fraction are at most: half the last place of a number below
`2 ^ 20`, which is more than they are. -/
def fractionError : Rat :=
  2 ^ (-34 : Int)

theorem cast_secondMicros : (secondMicros : Rat) = 1000000 := by
  norm_num [secondMicros]

theorem abs_fractionMicros_sub_le (seconds : Rat) :
    |fractionMicros seconds - (seconds - truncate seconds) * secondMicros| ≤ fractionError := by
  have hsmall : |(seconds - truncate seconds) * secondMicros| < 1000000 := by
    rw [cast_secondMicros, abs_mul, abs_of_pos (show (0 : Rat) < 1000000 by norm_num)]
    have hfraction := abs_sub_truncate_lt seconds
    linarith
  have hexponent : |(seconds - truncate seconds) * secondMicros| < 2 ^ ((19 : Int) + 1) :=
    hsmall.trans (by norm_num)
  obtain ⟨y, hy⟩ := exists_nearestDouble? (hexponent.trans (two_zpow_lt_iff.2 (by decide)))
  have hclose := abs_nearestDouble?_sub_le (by decide) hexponent hy
  rw [fractionMicros, hy]
  exact hclose

/-- The microseconds of seconds are a little more than half a microsecond off at most. -/
theorem abs_microsOfSeconds_sub_le (seconds : Rat) :
    |(microsOfSeconds seconds : Rat) - seconds * secondMicros| ≤ 1 / 2 + fractionError := by
  have hfraction := abs_fractionMicros_sub_le seconds
  have hround := abs_roundHalfEven_sub_le (fractionMicros seconds)
  have hsplit : (microsOfSeconds seconds : Rat) - seconds * secondMicros =
      ((roundHalfEven (fractionMicros seconds) : Rat) - fractionMicros seconds) +
        (fractionMicros seconds - (seconds - truncate seconds) * secondMicros) := by
    rw [microsOfSeconds]
    push_cast
    ring
  rw [hsplit]
  exact (abs_add_le _ _).trans (add_le_add hround hfraction)

/-- The microseconds of the fraction may be those of a whole second, but not more. -/
theorem abs_roundHalfEven_fractionMicros_le (seconds : Rat) :
    |roundHalfEven (fractionMicros seconds)| ≤ secondMicros := by
  have hround := abs_le.1 (abs_roundHalfEven_sub_le (fractionMicros seconds))
  have hclose := abs_le.1 (abs_fractionMicros_sub_le seconds)
  have hfraction := abs_lt.1 (abs_sub_truncate_lt seconds)
  have htiny : fractionError < 1 / 2 := by norm_num [fractionError]
  rw [cast_secondMicros] at hclose
  have hbelow : |(roundHalfEven (fractionMicros seconds) : Rat)| < secondMicros + 1 := by
    rw [cast_secondMicros, abs_lt]
    constructor <;> linarith
  exact Int.lt_add_one_iff.1 (by exact_mod_cast hbelow)

/-- Seconds are cut into whole ones and microseconds that are not negative. -/
theorem momentOfSeconds_eq (seconds : Rat) :
    momentOfSeconds seconds = momentOfParts (microsOfSeconds seconds / secondMicros)
      (microsOfSeconds seconds % secondMicros) := by
  have hbound := abs_roundHalfEven_fractionMicros_le seconds
  rw [abs_le] at hbound
  have hunfold : momentOfSeconds seconds =
      if secondMicros ≤ roundHalfEven (fractionMicros seconds) then
        momentOfParts (truncate seconds + 1) (roundHalfEven (fractionMicros seconds) - secondMicros)
      else if roundHalfEven (fractionMicros seconds) < 0 then
        momentOfParts (truncate seconds - 1) (roundHalfEven (fractionMicros seconds) + secondMicros)
      else momentOfParts (truncate seconds) (roundHalfEven (fractionMicros seconds)) := rfl
  rw [hunfold, microsOfSeconds]
  generalize roundHalfEven (fractionMicros seconds) = micros at hbound
  clear hunfold
  split
  · congr 1 <;> simp only [secondMicros] at * <;> omega
  · split <;> congr 1 <;> simp only [secondMicros] at * <;> omega

/-- Seconds of double precision are a moment if the calendar has it. -/
theorem momentOfSeconds_eq_ok_iff {seconds : Rat} {moment : Int} :
    momentOfSeconds seconds = .ok moment ↔
      inCalendar moment = true ∧ moment = microsOfSeconds seconds := by
  rw [momentOfSeconds_eq, momentOfParts_eq_ok_iff (Int.emod_nonneg _ (by decide))
    (Int.emod_lt_of_pos _ (by decide)), Int.ediv_mul_add_emod]

/-- Seconds whose microseconds are nearer to a whole number than to a half are that number of
microseconds. -/
theorem microsOfSeconds_eq {seconds : Rat} {n : Int}
    (h : |seconds * secondMicros - n| + fractionError < 1 / 2) : microsOfSeconds seconds = n := by
  have hfraction := abs_fractionMicros_sub_le seconds
  have hround : roundHalfEven (fractionMicros seconds) = n - truncate seconds * secondMicros := by
    apply roundHalfEven_eq
    have hsplit : fractionMicros seconds - ((n - truncate seconds * secondMicros : Int) : Rat) =
        (fractionMicros seconds - (seconds - truncate seconds) * secondMicros) +
          (seconds * secondMicros - n) := by
      push_cast
      ring
    rw [hsplit]
    exact (abs_add_le _ _).trans_lt (by linarith)
  rw [microsOfSeconds, hround]
  omega

/-- Seconds whose microseconds are farther from a whole number than a half are not that number of
microseconds. -/
theorem microsOfSeconds_ne {seconds : Rat} {n : Int}
    (h : 1 / 2 + fractionError < |seconds * secondMicros - n|) : microsOfSeconds seconds ≠ n := by
  rintro rfl
  have hclose := abs_microsOfSeconds_sub_le seconds
  rw [abs_sub_comm] at hclose
  exact absurd hclose (not_le.2 h)

end Instant

end ClockFace
