import ClockFace.Text.Digit
import ClockFace.Number.Double

/-! # Decimal fractions

Numbers written with a fraction or an exponent, kept as they are written: a sign, a whole number of
digits and a power of ten. Such a number stands for the nearest number of double precision.
`Decimal.toText` writes that number the short way: with the fewest digits that stand for it,
positional from `0.0001` up to sixteen digits before the point, else with an exponent. -/

namespace ClockFace.Number

/-- The number `± digits · 10 ^ exponent`. -/
structure Decimal where
  negative : Bool
  digits : Nat
  exponent : Int
  deriving DecidableEq, Repr, Inhabited

namespace Decimal

/-- The value of a decimal fraction. -/
def toRat (d : Decimal) : Rat :=
  let size : Rat := d.digits * (10 : Rat) ^ d.exponent
  if d.negative then -size else size

/-- The power of ten of the first digit, plus one. -/
def size (d : Decimal) : Int :=
  (Text.ofNat d.digits).length + d.exponent

/-- Numbers of double precision have sizes well within this bound on both sides of zero. -/
def sizeBound : Int := 400

/-- The number of double precision nearest to a decimal fraction; none if the fraction lies beyond
the largest of them. Powers of ten that are out of question are not worked out. -/
def toDouble? (d : Decimal) : Option Rat :=
  if d.digits = 0 || d.size < -sizeBound then some 0
  else if sizeBound < d.size then none
  else nearestDouble? d.toRat

/-- A fraction beyond all numbers of double precision. -/
def infinity (negative : Bool) : Decimal :=
  ⟨negative, 1, sizeBound⟩

@[simp] theorem toDouble?_infinity (negative : Bool) : (infinity negative).toDouble? = none := by
  cases negative <;> decide +kernel

/-- The number `digits · 10 ^ exponent` stands for `x`. -/
def standsFor (x : Rat) (exponent : Int) (digits : Int) : Bool :=
  nearestDouble? (digits * (10 : Rat) ^ exponent) == some x

/-- The multiple of `10 ^ exponent` that stands for `x`, of two such the nearer one. -/
def onGrid? (x : Rat) (exponent : Int) : Option Decimal :=
  let place := x / (10 : Rat) ^ exponent
  let nearer := roundHalfEven place
  -- Where `x` has closer neighbours of double precision on one side than on the other, only the
  -- farther multiple may stand for it.
  let farther := if (nearer : Rat) < place then nearer + 1 else nearer - 1
  ([nearer, farther].find? (standsFor x exponent)).map fun n => ⟨false, n.natAbs, exponent⟩

/-- The most digits that it takes to tell a number of double precision from all others. -/
def digitsEnough : Nat := 17

/-- The decimal fraction of the fewest digits that stands for the same number of double precision. -/
def shortest (d : Decimal) : Decimal :=
  match d.toDouble? with
  | none => d
  | some x =>
    if x = 0 then ⟨d.negative, 0, 0⟩
    else
      -- The coarsest grid comes first, so that the first hit has the fewest digits.
      let found := (List.range digitsEnough).findSome? fun (k : Nat) => onGrid? x.abs (d.size - 1 - k)
      { found.getD d with negative := d.negative }

/-- The digits without the zeros at their end; no digits for zero. -/
def significant (d : Decimal) : List Char :=
  Text.dropZeros (Text.ofNat d.digits)

/-- The significant digits `s` with the point after the first `point` of them. -/
def positional (s : List Char) (point : Int) : List Char :=
  if point ≤ 0 then ['0', '.'] ++ List.replicate point.natAbs '0' ++ s
  else if s.length ≤ point.toNat then
    s ++ List.replicate (point.toNat - s.length) '0' ++ ['.', '0']
  else s.take point.toNat ++ '.' :: s.drop point.toNat

/-- The significant digits `s` as one digit before the point, with a power of ten of at least two
digits. -/
def scientific (s : List Char) (power : Int) : List Char :=
  let head := match s with
    | c :: d :: rest => c :: '.' :: d :: rest
    | short => short
  head ++ ['e', if power < 0 then '-' else '+'] ++ Text.padded 2 power.natAbs

/-- The number of double precision that a decimal fraction stands for, written the short way. -/
def toText (d : Decimal) : List Char :=
  let s := d.shortest.significant
  let point := d.shortest.size
  let body :=
    if d.toDouble?.isNone then "inf".toList
    else if s.isEmpty then ['0', '.', '0']
    else if -4 < point && point ≤ 16 then positional s point
    else scientific s (point - 1)
  if d.negative then '-' :: body else body

end Decimal

end ClockFace.Number
