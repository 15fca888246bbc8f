import ClockFace.Number.Double
import Mathlib.Algebra.Order.Field.Power
import Mathlib.Data.Rat.Floor
import Mathlib.Tactic.Linarith

/-! # Rounding to double precision

Between two powers of two the numbers of double precision lie on a grid, and the nearest of them is
the nearest point of that grid. So the distance from a number to it is at most half a step of the
grid, and on a number of a known size the rounding is one to whole steps.

## Key results

- `abs_roundHalfEven_sub_le`, `roundHalfEven_eq`: rounding to the nearest whole number
- `magnitude_bounds`: the powers of two that a number lies between
- `eq_of_nearestDouble?`: the nearest number of double precision is on the grid
- `abs_nearestDouble?_sub_le`, `abs_nearestDouble?_sub_le_mul`: how far off it is at most
-/

namespace ClockFace.Number

theorem abs_eq (x : Rat) : x.abs = |x| := by
  rw [Rat.abs]
  split
  · next h => rw [abs_of_nonneg h]
  · next h => rw [abs_of_neg (not_le.1 h)]

/-! ## Whole numbers -/

theorem abs_roundHalfEven_sub_le (x : Rat) : |(roundHalfEven x : Rat) - x| ≤ 1 / 2 := by
  have hlow := Rat.floor_le x
  have hhigh := Rat.lt_floor (x := x)
  rw [roundHalfEven, abs_le]
  split
  · constructor <;> linarith
  · split
    · push_cast
      constructor <;> linarith
    · split
      · constructor <;> linarith
      · push_cast
        constructor <;> linarith

/-- A number that is closer to a whole number than a half is rounded to that one. -/
theorem roundHalfEven_eq {x : Rat} {n : Int} (h : |x - n| < 1 / 2) : roundHalfEven x = n := by
  have hround := abs_roundHalfEven_sub_le x
  have hclose : |((roundHalfEven x - n : Int) : Rat)| < 1 := by
    push_cast
    calc |(roundHalfEven x : Rat) - n| = |((roundHalfEven x : Rat) - x) + (x - n)| := by ring_nf
      _ ≤ |(roundHalfEven x : Rat) - x| + |x - n| := abs_add_le _ _
      _ < 1 := by linarith
  have hzero : roundHalfEven x - n = 0 := Int.abs_lt_one_iff.1 (by exact_mod_cast hclose)
  omega

/-- An even number keeps what lies half-way below it. -/
theorem le_roundHalfEven_iff {x : Rat} {n : Int} (hn : n % 2 = 0) :
    n ≤ roundHalfEven x ↔ (n : Rat) - 1 / 2 ≤ x := by
  have hround := abs_le.1 (abs_roundHalfEven_sub_le x)
  refine ⟨fun h => ?_, fun h => ?_⟩
  · have hcast : (n : Rat) ≤ roundHalfEven x := by exact_mod_cast h
    linarith
  · by_contra hlt
    have hcast : (roundHalfEven x : Rat) + 1 ≤ n := by exact_mod_cast (not_le.1 hlt)
    have hx : x = (roundHalfEven x : Rat) + 1 / 2 := by linarith
    have hn : roundHalfEven x = n - 1 := by
      have hsame : ((roundHalfEven x : Int) : Rat) = ((n - 1 : Int) : Rat) := by
        push_cast
        linarith
      exact_mod_cast hsame
    rw [hn] at hx
    have hfloor : x.floor = n - 1 := by
      have hbounds : ((n - 1 : Int) : Rat) ≤ x ∧ x < ((n - 1 : Int) : Rat) + 1 := by
        constructor <;> linarith
      exact Int.floor_eq_iff.2 hbounds
    have hhalf : ¬x - ((n - 1 : Int) : Rat) < 1 / 2 ∧ ¬1 / 2 < x - ((n - 1 : Int) : Rat) := by
      rw [hx]
      constructor <;> linarith
    rw [roundHalfEven, hfloor, if_neg hhalf.1, if_neg hhalf.2, if_neg (by omega)] at hn
    omega

theorem abs_sub_truncate_lt (x : Rat) : |x - truncate x| < 1 := by
  rw [truncate]
  split
  · have hlow := Rat.le_ceil (x := x)
    have hhigh := Rat.ceil_lt (x := x)
    rw [abs_lt]
    constructor <;> linarith
  · have hlow := Rat.floor_le x
    have hhigh := Rat.lt_floor (x := x)
    rw [abs_lt]
    constructor <;> linarith

/-! ## Powers of two -/

theorem two_zpow_pos (e : Int) : (0 : Rat) < 2 ^ e :=
  zpow_pos (by norm_num) e

theorem two_zpow_le {d e : Int} (h : d ≤ e) : (2 : Rat) ^ d ≤ 2 ^ e :=
  zpow_le_zpow_right₀ (by norm_num) h

theorem two_zpow_lt_iff {d e : Int} : (2 : Rat) ^ d < 2 ^ e ↔ d < e :=
  zpow_lt_zpow_iff_right₀ (by norm_num)

/-- The powers of two around the size of a numerator or of a denominator. -/
theorem two_zpow_log2_bounds {n : Nat} (hn : n ≠ 0) :
    (2 : Rat) ^ (n.log2 : Int) ≤ n ∧ (n : Rat) < 2 ^ ((n.log2 : Int) + 1) := by
  have hlow := Nat.log2_self_le hn
  have hhigh : n < 2 ^ (n.log2 + 1) := Nat.lt_log2_self
  rw [← Int.natCast_succ, zpow_natCast, zpow_natCast]
  exact ⟨by exact_mod_cast hlow, by exact_mod_cast hhigh⟩

/-- The powers of two around a number, from those around its numerator and its denominator. -/
theorem log2_quotient_bounds {x : Rat} (hx : x ≠ 0) :
    let guess : Int := (x.num.natAbs.log2 : Int) - (x.den.log2 : Int)
    (2 : Rat) ^ (guess - 1) ≤ |x| ∧ |x| < 2 ^ (guess + 1) := by
  intro guess
  have hnum : x.num.natAbs ≠ 0 := Int.natAbs_ne_zero.2 (Rat.num_ne_zero.2 hx)
  obtain ⟨hnumLow, hnumHigh⟩ := two_zpow_log2_bounds hnum
  obtain ⟨hdenLow, hdenHigh⟩ := two_zpow_log2_bounds x.den_nz
  have hden : (0 : Rat) < x.den := by exact_mod_cast x.den_pos
  have habs : |x| = (x.num.natAbs : Rat) / x.den := by
    conv_lhs => rw [← Rat.num_div_den x]
    rw [abs_div, abs_of_pos hden, Nat.cast_natAbs, Int.cast_abs]
  rw [habs, le_div_iff₀ hden, div_lt_iff₀ hden]
  constructor
  · calc (2 : Rat) ^ (guess - 1) * x.den
        ≤ 2 ^ (guess - 1) * 2 ^ ((x.den.log2 : Int) + 1) :=
          mul_le_mul_of_nonneg_left hdenHigh.le (two_zpow_pos _).le
      _ = 2 ^ (x.num.natAbs.log2 : Int) := by
          rw [← zpow_add₀ (by norm_num)]
          congr 1
          simp only [guess]
          omega
      _ ≤ x.num.natAbs := hnumLow
  · calc (x.num.natAbs : Rat) < 2 ^ ((x.num.natAbs.log2 : Int) + 1) := hnumHigh
      _ = 2 ^ (guess + 1) * 2 ^ (x.den.log2 : Int) := by
          rw [← zpow_add₀ (by norm_num)]
          congr 1
          simp only [guess]
          omega
      _ ≤ 2 ^ (guess + 1) * x.den := mul_le_mul_of_nonneg_left hdenLow (two_zpow_pos _).le

/-- A number lies between two powers of two that follow each other. -/
theorem magnitude_bounds {x : Rat} (hx : x ≠ 0) :
    (2 : Rat) ^ magnitude x ≤ |x| ∧ |x| < 2 ^ (magnitude x + 1) := by
  obtain ⟨hlow, hhigh⟩ := log2_quotient_bounds hx
  rw [magnitude, abs_eq]
  split
  · next hlt =>
    rw [Int.sub_add_cancel]
    exact ⟨hlow, hlt⟩
  · next hle =>
    exact ⟨not_lt.1 hle, hhigh⟩

/-- The exponent of a number is at most that of a larger power of two. -/
theorem magnitude_le {x : Rat} {e : Int} (hx : x ≠ 0) (h : |x| < 2 ^ (e + 1)) : magnitude x ≤ e := by
  have hbelow := two_zpow_lt_iff.1 ((magnitude_bounds hx).1.trans_lt h)
  omega

theorem le_magnitude {x : Rat} {e : Int} (h : (2 : Rat) ^ e ≤ |x|) : e ≤ magnitude x := by
  have hx : x ≠ 0 := abs_pos.1 ((two_zpow_pos e).trans_le h)
  have habove := two_zpow_lt_iff.1 (h.trans_lt (magnitude_bounds hx).2)
  omega

/-! ## Double precision -/

/-- The multiple of `2 ^ e` that is nearest to a number. -/
def nearestOnGrid (x : Rat) (e : Int) : Rat :=
  roundHalfEven (x / 2 ^ e) * 2 ^ e

/-- The exponent of the step between the numbers of double precision around a number. -/
def gridExponent (x : Rat) : Int :=
  max (magnitude x - 52) (-1074)

/-- The nearest multiple of a step is at most half a step off. -/
theorem abs_nearestOnGrid_sub_le (x : Rat) (e : Int) :
    |nearestOnGrid x e - x| ≤ 2 ^ (e - 1) := by
  have hpos := two_zpow_pos e
  have hround := mul_le_mul_of_nonneg_right (abs_roundHalfEven_sub_le (x / 2 ^ e)) hpos.le
  have hsame : (roundHalfEven (x / 2 ^ e) - x / 2 ^ e) * 2 ^ e = nearestOnGrid x e - x := by
    rw [sub_mul, div_mul_cancel₀ x hpos.ne', nearestOnGrid]
  calc |nearestOnGrid x e - x| = |roundHalfEven (x / 2 ^ e) - x / 2 ^ e| * 2 ^ e := by
        rw [← hsame, abs_mul, abs_of_pos hpos]
    _ ≤ 1 / 2 * 2 ^ e := hround
    _ = 2 ^ (e - 1) := by
        rw [zpow_sub_one₀ (by norm_num), one_div, mul_comm]

theorem nearestDouble?_eq {x : Rat} (hx : x ≠ 0) :
    nearestDouble? x =
      if |nearestOnGrid x (gridExponent x)| < 2 ^ (1024 : Int) then
        some (nearestOnGrid x (gridExponent x))
      else none := by
  rw [nearestDouble?, if_neg hx, ← abs_eq]
  rfl

theorem eq_of_nearestDouble?_ne_zero {x y : Rat} (hx : x ≠ 0) (h : nearestDouble? x = some y) :
    y = nearestOnGrid x (gridExponent x) := by
  rw [nearestDouble?_eq hx] at h
  split at h
  · exact (Option.some.inj h).symm
  · cases h

/-- A number between two powers of two is rounded on the grid between them. -/
theorem eq_of_nearestDouble? {x y : Rat} {e : Int} (he : -1022 ≤ e) (hlow : (2 : Rat) ^ e ≤ |x|)
    (hhigh : |x| < 2 ^ (e + 1)) (h : nearestDouble? x = some y) : y = nearestOnGrid x (e - 52) := by
  have hx : x ≠ 0 := abs_pos.1 ((two_zpow_pos e).trans_le hlow)
  have hmagnitude : magnitude x = e := le_antisymm (magnitude_le hx hhigh) (le_magnitude hlow)
  have hgrid : gridExponent x = e - 52 := by
    rw [gridExponent]
    omega
  rw [eq_of_nearestDouble?_ne_zero hx h, hgrid]

/-- How far off the nearest number of double precision is, for numbers below a power of two. -/
theorem abs_nearestDouble?_sub_le {x y : Rat} {e : Int} (he : -1022 ≤ e) (hx : |x| < 2 ^ (e + 1))
    (h : nearestDouble? x = some y) : |y - x| ≤ 2 ^ (e - 53) := by
  by_cases hzero : x = 0
  · obtain rfl : y = 0 := by
      rw [nearestDouble?, if_pos hzero] at h
      exact (Option.some.inj h).symm
    rw [hzero, sub_zero, abs_zero]
    exact (two_zpow_pos _).le
  · have hgrid : gridExponent x - 1 ≤ e - 53 := by
      have hmagnitude := magnitude_le hzero hx
      rw [gridExponent]
      omega
    rw [eq_of_nearestDouble?_ne_zero hzero h]
    exact (abs_nearestOnGrid_sub_le x _).trans (two_zpow_le hgrid)

/-- In proportion to the number the distance to the nearest one is tiny. -/
theorem abs_nearestDouble?_sub_le_mul {x y : Rat} (hx : (2 : Rat) ^ (-1022 : Int) ≤ |x|)
    (h : nearestDouble? x = some y) : |y - x| ≤ |x| * 2 ^ (-53 : Int) := by
  have hzero : x ≠ 0 := abs_pos.1 ((two_zpow_pos _).trans_le hx)
  obtain ⟨hlow, hhigh⟩ := magnitude_bounds hzero
  have hclose := abs_nearestDouble?_sub_le (le_magnitude hx) hhigh h
  rw [Int.sub_eq_add_neg, zpow_add₀ (by norm_num)] at hclose
  exact hclose.trans (mul_le_mul_of_nonneg_right hlow (two_zpow_pos _).le)

/-- A number well below the bound of double precision has a nearest number there. -/
theorem exists_nearestDouble? {x : Rat} (h : |x| < 2 ^ (1023 : Int)) :
    ∃ y, nearestDouble? x = some y := by
  by_cases hzero : x = 0
  · exact ⟨0, if_pos hzero⟩
  · have hgrid : gridExponent x - 1 ≤ 1023 := by
      have hmagnitude := magnitude_le (e := 1022) hzero h
      rw [gridExponent]
      omega
    have hclose := (abs_nearestOnGrid_sub_le x (gridExponent x)).trans (two_zpow_le hgrid)
    have hbelow : |nearestOnGrid x (gridExponent x)| < 2 ^ (1024 : Int) := by
      have htriangle := abs_sub_abs_le_abs_sub (nearestOnGrid x (gridExponent x)) x
      calc |nearestOnGrid x (gridExponent x)|
          < 2 ^ (1023 : Int) + 2 ^ (1023 : Int) := by linarith only [h, hclose, htriangle]
        _ = 2 ^ (1024 : Int) := by
          rw [← mul_two]
          exact (zpow_add_one₀ (by norm_num) 1023).symm
    rw [nearestDouble?_eq hzero, if_pos hbelow]
    exact ⟨_, rfl⟩

end ClockFace.Number
