import ClockFace.Proofs.EpochSeconds
import Mathlib.Tactic.IntervalCases
import Mathlib.Tactic.LinearCombination

/-! # Milliseconds as moments

Milliseconds are divided into seconds of double precision, and these are turned into microseconds.
Between two powers of two there are so many numbers of double precision to a second (`millisGrid`),
and the division goes to the nearest of them. Where that is less than half a microsecond off, the
microseconds come out right in the end (`MillisAreExact`): so they do as long as there are more than
a million numbers to a second, and further out it depends on what is left over.

Far outside the calendar the numbers are eight seconds apart, which is what decides between the two
ways in which such milliseconds fail.

## Key results

- `microsOfSeconds_millis_eq_iff`: when milliseconds come out right
- `abs_microsOfSeconds_millis_sub_le`: how far off they are else
- `microsOfSeconds_millis_ediv`: they always come out in the right second
- `inCalendar_microsOfSeconds_millis`: which milliseconds come out in the calendar
- `le_microsOfSeconds_millis_iff`: what the division does far outside it
-/

namespace ClockFace.Instant

open Number

/-- The numbers of double precision to a second, around the seconds of so many milliseconds. -/
def millisGrid (millis : Int) : Nat :=
  2 ^ (52 - Nat.log2 (millis.natAbs / 1000))

/-- What is left over when milliseconds are divided into seconds, in thousandths of the distance
between two numbers of double precision. -/
def millisRest (millis : Int) : Int :=
  Int.bmod (millis * millisGrid millis) 1000

/-- The division of milliseconds into seconds is less than half a microsecond off, where a second has
as many numbers of double precision as the grid. -/
def MillisAreExact (millis : Int) : Prop :=
  2000 * (millisRest millis).natAbs < millisGrid millis

instance (millis : Int) : Decidable (MillisAreExact millis) :=
  inferInstanceAs (Decidable (_ < _))

theorem log2_le_of_lt {n k : Nat} (h : n < 2 ^ (k + 1)) : n.log2 ≤ k := by
  by_cases hn : n = 0
  · rw [hn]
    exact Nat.zero_le k
  · exact Nat.lt_succ_iff.1 ((Nat.log2_lt hn).2 h)

section Millis

variable {millis : Int} {seconds : Rat}

/-- The seconds of milliseconds lie between the powers of two of their whole part. -/
theorem abs_millis_bounds (millis : Int) :
    |(millis : Rat) / 1000| < 2 ^ (((millis.natAbs / 1000).log2 : Int) + 1) ∧
      (millis.natAbs / 1000 ≠ 0 →
        (2 : Rat) ^ ((millis.natAbs / 1000).log2 : Int) ≤ |(millis : Rat) / 1000|) := by
  have habs : |(millis : Rat) / 1000| = (millis.natAbs : Rat) / 1000 := by
    rw [abs_div, Nat.cast_natAbs, Int.cast_abs, abs_of_pos (show (0 : Rat) < 1000 by norm_num)]
  have hlow : ((millis.natAbs / 1000 : Nat) : Rat) ≤ (millis.natAbs : Rat) / 1000 := by
    rw [le_div_iff₀ (by norm_num)]
    have hnat : millis.natAbs / 1000 * 1000 ≤ millis.natAbs := by omega
    exact_mod_cast hnat
  have hhigh : (millis.natAbs : Rat) / 1000 < ((millis.natAbs / 1000 + 1 : Nat) : Rat) := by
    rw [div_lt_iff₀ (by norm_num)]
    have hnat : millis.natAbs < (millis.natAbs / 1000 + 1) * 1000 := by omega
    exact_mod_cast hnat
  rw [habs]
  refine ⟨hhigh.trans_le ?_, fun hne => (two_zpow_log2_bounds hne).1.trans hlow⟩
  have hlog : millis.natAbs / 1000 + 1 ≤ 2 ^ ((millis.natAbs / 1000).log2 + 1) :=
    Nat.lt_log2_self
  rw [← Int.natCast_succ, zpow_natCast]
  exact_mod_cast hlog

/-- Milliseconds can be divided as long as there are not very many of them. -/
theorem exists_nearestDouble?_millis (h : millis.natAbs / 1000 < 2 ^ 57) :
    ∃ seconds, nearestDouble? ((millis : Rat) / 1000) = some seconds := by
  have hlog := log2_le_of_lt h
  exact exists_nearestDouble? ((abs_millis_bounds millis).1.trans_le (two_zpow_le (by omega)))

/-- The microseconds of the seconds of milliseconds, which are off by as much as the division. -/
theorem abs_micros_sub_millis (millis : Int) (seconds : Rat) :
    |seconds * secondMicros - ((millis * 1000 : Int) : Rat)| =
      |seconds - (millis : Rat) / 1000| * 1000000 := by
  have hsplit : seconds * secondMicros - ((millis * 1000 : Int) : Rat) =
      (seconds - (millis : Rat) / 1000) * 1000000 := by
    rw [cast_secondMicros]
    push_cast
    ring
  rw [hsplit, abs_mul, abs_of_pos (show (0 : Rat) < 1000000 by norm_num)]

/-- The microseconds are off by what the division is off, and little more than half of one. -/
theorem abs_microsOfSeconds_sub_millis_le (millis : Int) (seconds : Rat) :
    |(microsOfSeconds seconds : Rat) - ((millis * 1000 : Int) : Rat)| ≤
      |seconds - (millis : Rat) / 1000| * 1000000 + 51 / 100 := by
  have hmicros := abs_microsOfSeconds_sub_le seconds
  have htiny : fractionError < 1 / 100 := by norm_num [fractionError]
  have htriangle := abs_sub_le (microsOfSeconds seconds : Rat) (seconds * secondMicros)
    ((millis * 1000 : Int) : Rat)
  rw [abs_micros_sub_millis] at htriangle
  linarith

/-- The division of milliseconds is off by half a step at most. -/
theorem abs_division_sub_le {e : Nat} (hsmall : millis.natAbs / 1000 < 2 ^ (e + 1))
    (h : nearestDouble? ((millis : Rat) / 1000) = some seconds) :
    |seconds - (millis : Rat) / 1000| ≤ 2 ^ ((e : Int) - 53) := by
  have hlog := log2_le_of_lt hsmall
  exact abs_nearestDouble?_sub_le (by omega)
    ((abs_millis_bounds millis).1.trans_le (two_zpow_le (by omega))) h

/-- Where there are more than a million numbers to a second, the division is precise enough. -/
theorem microsOfSeconds_millis_eq (hsmall : millis.natAbs / 1000 < 2 ^ 33)
    (h : nearestDouble? ((millis : Rat) / 1000) = some seconds) :
    microsOfSeconds seconds = millis * 1000 := by
  have hclose := abs_division_sub_le (e := 32) hsmall h
  have htiny : fractionError < 1 / 100 := by norm_num [fractionError]
  have hstep : (2 : Rat) ^ (((32 : Nat) : Int) - 53) * 1000000 < 12 / 25 := by norm_num
  apply microsOfSeconds_eq
  rw [abs_micros_sub_millis]
  linarith

/-- Of a multiple of eight thousandths of a step, less than half a step is left over. -/
theorem natAbs_bmod_lt {x : Int} (h : x % 8 = 0) : (Int.bmod x 1000).natAbs < 500 := by
  have hlow : -500 ≤ Int.bmod x 1000 := Int.le_bmod (by decide)
  have hhigh : Int.bmod x 1000 ≤ 499 := Int.bmod_le (by decide)
  have hsplit := Int.bdiv_add_bmod x 1000
  omega

/-- The division of milliseconds where there are `2 ^ (52 - e)` numbers to a second. -/
theorem sub_millis_eq {e : Int} (he : -1022 ≤ e) (hlow : (2 : Rat) ^ e ≤ |(millis : Rat) / 1000|)
    (hhigh : |(millis : Rat) / 1000| < 2 ^ (e + 1)) {grid : Nat} (hgrid : (grid : Rat) = 2 ^ (52 - e))
    (h8 : grid % 8 = 0) (h : nearestDouble? ((millis : Rat) / 1000) = some seconds) :
    (seconds - (millis : Rat) / 1000) * (1000 * grid) = -Int.bmod (millis * grid) 1000 := by
  obtain ⟨n, rest, hsplit, hrest⟩ : ∃ n rest : Int, millis * grid = 1000 * n + rest ∧
      Int.bmod (millis * grid) 1000 = rest :=
    ⟨_, _, (Int.bdiv_add_bmod _ 1000).symm, rfl⟩
  have hstep : (grid : Rat) * 2 ^ (e - 52) = 1 := by
    rw [hgrid, ← zpow_add₀ (by norm_num)]
    simp
  -- The steps to a second are a multiple of eight, so the nearest step is the only one
  have hrestSmall : |(rest : Rat)| < 500 := by
    have hgrid8 : (grid : Int) % 8 = 0 := by omega
    have height : millis * grid % 8 = 0 := by
      rw [Int.mul_emod, hgrid8, Int.mul_zero, Int.zero_emod]
    have hlt := natAbs_bmod_lt height
    rw [hrest] at hlt
    rw [← Int.cast_abs, ← Int.natCast_natAbs]
    exact_mod_cast hlt
  have hsplitRat : (millis : Rat) * grid = 1000 * n + rest := by exact_mod_cast hsplit
  have hplace : (millis : Rat) / 1000 / 2 ^ (e - 52) = n + rest / 1000 := by
    rw [div_eq_iff (two_zpow_pos _).ne']
    linear_combination (2 ^ (e - 52) / 1000) * hsplitRat - millis / 1000 * hstep
  have hround : roundHalfEven ((millis : Rat) / 1000 / 2 ^ (e - 52)) = n := by
    apply roundHalfEven_eq
    rw [hplace, add_sub_cancel_left, abs_div, abs_of_pos (show (0 : Rat) < 1000 by norm_num)]
    linarith
  rw [eq_of_nearestDouble? he hlow hhigh h, nearestOnGrid, hround, hrest]
  linear_combination 1000 * n * hstep - hsplitRat

theorem natAbs_millisRest_le (millis : Int) : (millisRest millis).natAbs ≤ 500 := by
  have hlow : -500 ≤ millisRest millis := Int.le_bmod (by decide)
  have hhigh : millisRest millis ≤ 499 := Int.bmod_le (by decide)
  omega

/-- Milliseconds whose seconds are below `2 ^ 33`, some time in the year 2242, are exact. -/
theorem millisAreExact_of_lt (hsmall : millis.natAbs / 1000 < 2 ^ 33) : MillisAreExact millis := by
  have hrest := natAbs_millisRest_le millis
  have hgrid : 2 ^ 20 ≤ millisGrid millis :=
    Nat.pow_le_pow_right (by decide) (by have hlog := log2_le_of_lt hsmall; omega)
  rw [MillisAreExact]
  omega

/-- Whole seconds are exact. -/
theorem millisAreExact_of_emod (hwhole : millis % 1000 = 0) : MillisAreExact millis := by
  have hrest : millisRest millis = 0 := by
    have hdvd : millis * millisGrid millis % 1000 = 0 := by
      rw [Int.mul_emod, hwhole, Int.zero_mul, Int.zero_emod]
    rw [millisRest, ← Int.emod_bmod, Nat.cast_ofNat, hdvd, Int.zero_bmod]
  rw [MillisAreExact, hrest]
  exact Nat.two_pow_pos _

/-- From there on to beyond the calendar there are from `2 ^ 15` to `2 ^ 19` numbers to a second. -/
theorem millisGrid_of_le (hlarge : 2 ^ 33 ≤ millis.natAbs / 1000)
    (h : millis.natAbs / 1000 < 2 ^ 38) :
    (33 ≤ (millis.natAbs / 1000).log2 ∧ (millis.natAbs / 1000).log2 ≤ 37) ∧
      (millisGrid millis = 32768 ∨ millisGrid millis = 65536 ∨ millisGrid millis = 131072 ∨
        millisGrid millis = 262144 ∨ millisGrid millis = 524288) := by
  have hlow : 33 ≤ (millis.natAbs / 1000).log2 :=
    (Nat.le_log2 (by omega)).2 hlarge
  have hhigh : (millis.natAbs / 1000).log2 ≤ 37 := log2_le_of_lt h
  refine ⟨⟨hlow, hhigh⟩, ?_⟩
  rw [millisGrid]
  generalize (millis.natAbs / 1000).log2 = e at hlow hhigh
  interval_cases e <;> decide

/-- How far off the division of milliseconds is, in microseconds. -/
theorem abs_micros_sub_millis_mul (hlarge : 2 ^ 33 ≤ millis.natAbs / 1000)
    (hcalendar : millis.natAbs / 1000 < 2 ^ 38)
    (h : nearestDouble? ((millis : Rat) / 1000) = some seconds) :
    |seconds * secondMicros - ((millis * 1000 : Int) : Rat)| * millisGrid millis =
      1000 * (millisRest millis).natAbs := by
  obtain ⟨⟨-, hhigh⟩, hgrid⟩ := millisGrid_of_le hlarge hcalendar
  have hcast : (millisGrid millis : Rat) = 2 ^ (52 - ((millis.natAbs / 1000).log2 : Int)) := by
    have hexponent : (52 : Int) - (millis.natAbs / 1000).log2 =
        ((52 - (millis.natAbs / 1000).log2 : Nat) : Int) := by omega
    rw [hexponent, zpow_natCast, millisGrid]
    push_cast
    rfl
  have hsub := congrArg abs (sub_millis_eq (by omega) ((abs_millis_bounds millis).2 (by omega))
    (abs_millis_bounds millis).1 hcast (by omega) h)
  have hpos : (0 : Rat) < 1000 * millisGrid millis := by
    have hnat : 0 < 1000 * millisGrid millis := by omega
    exact_mod_cast hnat
  rw [abs_mul, abs_of_pos hpos, abs_neg] at hsub
  rw [abs_micros_sub_millis, Nat.cast_natAbs, Int.cast_abs, millisRest, ← hsub]
  ring

/-- Milliseconds come out right exactly if the division is less than half a microsecond off. It is
never just half a microsecond off, since a number of thousandths is no power of two. -/
theorem microsOfSeconds_millis_eq_iff (hcalendar : millis.natAbs / 1000 < 2 ^ 38)
    (h : nearestDouble? ((millis : Rat) / 1000) = some seconds) :
    microsOfSeconds seconds = millis * 1000 ↔ MillisAreExact millis := by
  by_cases hsmall : millis.natAbs / 1000 < 2 ^ 33
  · exact iff_of_true (microsOfSeconds_millis_eq hsmall h) (millisAreExact_of_lt hsmall)
  · have hdistance := abs_micros_sub_millis_mul (not_lt.1 hsmall) hcalendar h
    obtain ⟨-, hgrid⟩ := millisGrid_of_le (not_lt.1 hsmall) hcalendar
    have hpos : (0 : Rat) < millisGrid millis := by
      have hnat : 0 < millisGrid millis := by omega
      exact_mod_cast hnat
    have htiny : fractionError * millisGrid millis < 1 / 2 := by
      have hmax : (millisGrid millis : Rat) ≤ 524288 := by
        have hnat : millisGrid millis ≤ 524288 := by omega
        exact_mod_cast hnat
      norm_num [fractionError]
      linarith
    by_cases hexact : MillisAreExact millis
    · refine iff_of_true (microsOfSeconds_eq (lt_of_mul_lt_mul_right ?_ hpos.le)) hexact
      have hbelow : (2000 * (millisRest millis).natAbs + 1 : Rat) ≤ millisGrid millis := by
        exact_mod_cast Nat.succ_le_of_lt hexact
      rw [add_mul, hdistance]
      linarith
    · refine iff_of_false (microsOfSeconds_ne (lt_of_mul_lt_mul_right ?_ hpos.le)) hexact
      have habove : (millisGrid millis + 1 : Rat) ≤ 2000 * (millisRest millis).natAbs := by
        rw [MillisAreExact] at hexact
        have hnat : millisGrid millis + 1 ≤ 2000 * (millisRest millis).natAbs := by omega
        exact_mod_cast hnat
      rw [add_mul, hdistance]
      linarith

example : MillisAreExact 8589934592125 ∧ ¬MillisAreExact 8589934592001 := by decide +kernel

/-- Milliseconds in the calendar come out right but for fifteen microseconds. -/
theorem abs_microsOfSeconds_millis_sub_le (hcalendar : millis.natAbs / 1000 < 2 ^ 38)
    (h : nearestDouble? ((millis : Rat) / 1000) = some seconds) :
    |microsOfSeconds seconds - millis * 1000| ≤ 15 := by
  have hclose := abs_division_sub_le (e := 37) hcalendar h
  have hmicros := abs_microsOfSeconds_sub_millis_le millis seconds
  have hstep : (2 : Rat) ^ (((37 : Nat) : Int) - 53) * 1000000 < 46 / 3 := by norm_num
  have hsum : |(microsOfSeconds seconds : Rat) - ((millis * 1000 : Int) : Rat)| < 16 := by
    linarith
  exact Int.lt_add_one_iff.1 (by exact_mod_cast hsum)

/-- Milliseconds come out in the second that they lie in. -/
theorem microsOfSeconds_millis_ediv (hcalendar : millis.natAbs / 1000 < 2 ^ 38)
    (h : nearestDouble? ((millis : Rat) / 1000) = some seconds) :
    microsOfSeconds seconds / secondMicros = millis / 1000 := by
  have hclose := abs_le.1 (abs_microsOfSeconds_millis_sub_le hcalendar h)
  rw [secondMicros]
  by_cases hwhole : millis % 1000 = 0
  · rw [(microsOfSeconds_millis_eq_iff hcalendar h).2 (millisAreExact_of_emod hwhole)]
    omega
  · omega

/-! ## Outside the calendar -/

/-- In proportion to their number, milliseconds are hardly off. -/
theorem natAbs_microsOfSeconds_millis_sub_le_mul
    (h : nearestDouble? ((millis : Rat) / 1000) = some seconds) :
    (microsOfSeconds seconds - millis * 1000).natAbs * 2 ^ 53 ≤ millis.natAbs * 1000 + 2 ^ 53 := by
  by_cases hne : millis = 0
  · rw [microsOfSeconds_millis_eq (by rw [hne]; decide) h, Int.sub_self]
    exact Nat.zero_le _
  have hone : (1 : Rat) ≤ |(millis : Rat)| := by exact_mod_cast Int.one_le_abs hne
  have habs : |(millis : Rat) / 1000| = |(millis : Rat)| / 1000 := by
    rw [abs_div, abs_of_pos (show (0 : Rat) < 1000 by norm_num)]
  have hnormal : (2 : Rat) ^ (-1022 : Int) ≤ |(millis : Rat) / 1000| := by
    calc (2 : Rat) ^ (-1022 : Int) ≤ 2 ^ (-10 : Int) := two_zpow_le (by decide)
      _ ≤ 1 / 1000 := by norm_num
      _ ≤ |(millis : Rat) / 1000| := by
        rw [habs]
        linarith
  have hclose := abs_nearestDouble?_sub_le_mul hnormal h
  have hmicros := abs_microsOfSeconds_sub_millis_le millis seconds
  have hplaces : (2 : Rat) ^ (-53 : Int) = 1 / 2 ^ 53 := by norm_num
  rw [habs, hplaces] at hclose
  have hrat : |(microsOfSeconds seconds : Rat) - ((millis * 1000 : Int) : Rat)| * 2 ^ 53 ≤
      |(millis : Rat)| * 1000 + 2 ^ 53 := by
    linarith
  have hint : |microsOfSeconds seconds - millis * 1000| * 2 ^ 53 ≤ |millis| * 1000 + 2 ^ 53 := by
    exact_mod_cast hrat
  rw [← Int.natCast_natAbs, ← Int.natCast_natAbs] at hint
  exact_mod_cast hint

/-- Milliseconds beyond the calendar come out beyond it. -/
theorem inCalendar_microsOfSeconds_millis
    (h : nearestDouble? ((millis : Rat) / 1000) = some seconds) :
    inCalendar (microsOfSeconds seconds) = true ↔
      -62135596800000 ≤ millis ∧ millis < 253402300800000 := by
  by_cases hcalendar : millis.natAbs / 1000 < 2 ^ 38
  · have hsecond := microsOfSeconds_millis_ediv hcalendar h
    rw [inCalendar, Bool.and_eq_true, decide_eq_true_eq, decide_eq_true_eq]
    simp only [firstWall, endWall, secondMicros] at *
    omega
  · have hclose := natAbs_microsOfSeconds_millis_sub_le_mul h
    rw [inCalendar, Bool.and_eq_true, decide_eq_true_eq, decide_eq_true_eq]
    simp only [firstWall, endWall]
    omega

/-- Far outside the calendar the numbers of double precision are eight seconds apart. -/
theorem microsOfSeconds_millis_eights (hlow : 2 ^ 55 ≤ millis.natAbs / 1000)
    (hhigh : millis.natAbs / 1000 < 2 ^ 56)
    (h : nearestDouble? ((millis : Rat) / 1000) = some seconds) :
    microsOfSeconds seconds = roundHalfEven ((millis : Rat) / 1000 / 8) * 8 * secondMicros := by
  have hlog : (millis.natAbs / 1000).log2 = 55 :=
    le_antisymm (log2_le_of_lt hhigh) ((Nat.le_log2 (by omega)).2 hlow)
  obtain ⟨habove, hbelow⟩ := abs_millis_bounds millis
  rw [hlog] at habove hbelow
  have hseconds : seconds = (roundHalfEven ((millis : Rat) / 1000 / 8) * 8 : Int) := by
    rw [eq_of_nearestDouble? (by decide) (hbelow (by omega)) habove h, nearestOnGrid]
    norm_num
  apply microsOfSeconds_eq
  rw [hseconds, ← Int.cast_mul, sub_self, abs_zero, zero_add]
  norm_num [fractionError]

/-- A number half-way between two of them goes to the multiple of sixteen. -/
theorem le_microsOfSeconds_millis_iff {n : Int} (hn : n % 16 = 0) (hlow : 2 ^ 55 + 16 ≤ n.natAbs)
    (hhigh : n.natAbs + 16 ≤ 2 ^ 56) (h : nearestDouble? ((millis : Rat) / 1000) = some seconds) :
    n ≤ microsOfSeconds seconds / secondMicros ↔ 1000 * (n - 4) ≤ millis := by
  by_cases hmiddle : 2 ^ 55 ≤ millis.natAbs / 1000 ∧ millis.natAbs / 1000 < 2 ^ 56
  · have hmicros := microsOfSeconds_millis_eights hmiddle.1 hmiddle.2 h
    have hhalf := le_roundHalfEven_iff (x := (millis : Rat) / 1000 / 8) (n := n / 8) (by omega)
    have hbound : ((n / 8 : Int) : Rat) - 1 / 2 ≤ (millis : Rat) / 1000 / 8 ↔
        1000 * (n - 4) ≤ millis := by
      have hn8 : ((n / 8 : Int) : Rat) * 8 = n := by
        have hint : n / 8 * 8 = n := by omega
        exact_mod_cast hint
      have hrat : (1000 * ((n : Rat) - 4) ≤ millis) ↔ 1000 * (n - 4) ≤ millis := by
        exact_mod_cast Iff.rfl
      rw [← hrat, ← hn8]
      constructor <;> intro hle <;> linarith
    rw [← hbound, ← hhalf, hmicros, Int.mul_ediv_cancel _ (by decide)]
    omega
  · have hclose := natAbs_microsOfSeconds_millis_sub_le_mul h
    rw [secondMicros]
    omega

end Millis

end ClockFace.Instant
