/-! # Double precision

Numbers of double precision are the rationals `m · 2 ^ q` with `|m| < 2 ^ 53` and `-1074 ≤ q ≤ 971`.
A computation on them is a computation on rationals followed by rounding to the nearest of them, so
this module holds the two roundings and no number type of its own. `roundHalfEven_intCast` says that
a whole number rounds to itself. -/

namespace ClockFace.Number

/-- The whole number nearest to `x`; a half goes to the even neighbour. -/
def roundHalfEven (x : Rat) : Int :=
  let below := x.floor
  let rest := x - below
  if rest < 1 / 2 then below
  else if 1 / 2 < rest then below + 1
  else if below % 2 = 0 then below else below + 1

/-- The whole part of `x`, cut toward zero. -/
def truncate (x : Rat) : Int :=
  if x < 0 then x.ceil else x.floor

@[simp] theorem roundHalfEven_intCast (n : Int) : roundHalfEven n = n := by
  have half : (0 : Rat) < 1 / 2 := by decide +kernel
  simp only [roundHalfEven, Rat.floor_intCast, Rat.sub_self, half, ↓reduceIte]

/-- The exponent `e` with `2 ^ e ≤ |x| < 2 ^ (e + 1)`, for `x` other than zero. -/
def magnitude (x : Rat) : Int :=
  -- The two logarithms are cut, so their difference is the exponent or one above it.
  let guess : Int := (Nat.log2 x.num.natAbs : Int) - (Nat.log2 x.den : Int)
  if x.abs < (2 : Rat) ^ guess then guess - 1 else guess

/-- The number of double precision nearest to `x`, of two equally near ones the one with the even
mantissa; none if `x` lies beyond the largest of them. -/
def nearestDouble? (x : Rat) : Option Rat :=
  if x = 0 then some 0
  else
    -- Near zero the numbers stop getting closer to each other.
    let step : Rat := (2 : Rat) ^ (max (magnitude x - 52) (-1074))
    let rounded : Rat := roundHalfEven (x / step) * step
    if rounded.abs < (2 : Rat) ^ (1024 : Int) then some rounded else none

end ClockFace.Number
