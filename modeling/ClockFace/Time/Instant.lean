import ClockFace.Failure
import ClockFace.Number.Double
import ClockFace.Text.Digit
import ClockFace.Time.Zone

/-! # Instants

An instant is a wall time in microseconds since the start of 1970 together with the frame that it is
read in: no frame, a fixed offset or a zone. `Instant.moment` is the same in universal time. Wall
times and moments stay within the years 1 to 9999. -/

namespace ClockFace

open Number

/-- What a wall time is read in. -/
inductive Frame where
  /-- No offset is known; the wall time is shown as it is. -/
  | floating
  /-- A fixed number of seconds east of universal time. -/
  | fixed (offset : Int)
  | zone (z : Zone)
  deriving DecidableEq, Repr

/-- A wall time in a frame; `fold` selects the second of two readings of a wall time. -/
structure Instant where
  wall : Int
  frame : Frame
  fold : Bool := false
  deriving DecidableEq, Repr

/-- Microseconds of a second. -/
def secondMicros : Int := 1000000

/-- Microseconds of a day. -/
def dayMicros : Int := 86400000000

/-- The first microsecond of year 1. -/
def firstWall : Int := -62135596800000000

/-- The first microsecond of year 10000. -/
def endWall : Int := 253402300800000000

/-- The time lies within the years 1 to 9999. -/
def inCalendar (wall : Int) : Bool :=
  firstWall ≤ wall && wall < endWall

namespace Instant

/-- The wall time in whole seconds. -/
def wallSeconds (i : Instant) : Int :=
  i.wall / secondMicros

/-- Seconds east of universal time; none without a frame. -/
def offset? (i : Instant) : Option Int :=
  match i.frame with
  | .floating => none
  | .fixed seconds => some seconds
  | .zone z => some (z.offsetAtWall i.wallSeconds i.fold)

/-- Microseconds since the start of 1970 in universal time; a floating instant counts as universal
time. -/
def moment (i : Instant) : Int :=
  i.wall - (i.offset?.getD 0) * secondMicros

/-- The date on the wall calendar. -/
def date (i : Instant) : Date :=
  Date.ofDay (i.wall / dayMicros)

/-- Seconds since midnight on the wall clock. -/
def secondOfDay (i : Instant) : Int :=
  i.wallSeconds % daySeconds

/-- The hour on the wall clock, 0 to 23. -/
def hour (i : Instant) : Int :=
  i.secondOfDay / 3600

/-- The minute on the wall clock. -/
def minute (i : Instant) : Int :=
  i.secondOfDay / 60 % 60

/-- The second on the wall clock. -/
def second (i : Instant) : Int :=
  i.secondOfDay % 60

/-- The microseconds past the second. -/
def micros (i : Instant) : Int :=
  i.wall % secondMicros

/-- A wall time that must lie in the calendar. -/
def checkedWall (wall : Int) : Except Failure Int :=
  if inCalendar wall then .ok wall else .error .dateRange

/-- The wall time in a zone at a moment. The second reading is marked where the first would be
another moment. -/
def atMoment (z : Zone) (moment : Int) : Except Failure Instant := do
  let offset := z.offsetAt (moment / secondMicros)
  let wall ← checkedWall (moment + offset * secondMicros)
  -- The clock shows this wall time twice if the first reading has another offset.
  let fold := decide (z.offsetAtWall (wall / secondMicros) false ≠ offset)
  return { wall, frame := .zone z, fold }

/-- The wall time at a moment with the fixed offset that a zone then has. -/
def atMomentFixed (z : Zone) (moment : Int) : Except Failure Instant := do
  let offset := z.offsetAt (moment / secondMicros)
  let wall ← checkedWall (moment + offset * secondMicros)
  return { wall, frame := .fixed offset }

/-- The same moment in a zone. An instant that is already in the zone stays as it is. -/
def inZone (i : Instant) (z : Zone) : Except Failure Instant :=
  if i.frame = .zone z then .ok i
  else checkedWall i.moment >>= atMoment z

/-- The same moment with the fixed offset that a zone then has. -/
def inFixedOffset (i : Instant) (z : Zone) : Except Failure Instant :=
  checkedWall i.moment >>= atMomentFixed z

/-- The instant a span of wall time later, in the same frame, read the first way. -/
def addWall (i : Instant) (micros : Int) : Except Failure Instant := do
  let wall ← checkedWall (i.wall + micros)
  return { i with wall, fold := false }

/-- Seconds from this bound on do not fit the machine's clock. -/
def epochBound : Int := 9223372036854775808

/-- The first year that the machine's calendar counts. -/
def firstMachineYear : Int := -2147481748

/-- The last year that the machine's calendar counts. -/
def lastMachineYear : Int := 2147485547

/-- A year as the machine's calendar names it, in a word of 32 bits. -/
def machineYear (year : Int) : Int :=
  year.bmod 4294967296

/-- Seconds since the start of 1970 as a moment: the whole seconds and the microseconds that follow
them. -/
def momentOfParts (seconds micros : Int) : Except Failure Int :=
  if seconds < -epochBound || epochBound ≤ seconds then .error .epochRange
  else
    let year := (Date.ofDay (seconds / daySeconds)).year
    if year < firstMachineYear || lastMachineYear < year then .error .machineYear
    else if year < 1 || 9999 < year then .error (.yearRange (machineYear year))
    else .ok (seconds * secondMicros + micros)

/-- Seconds since the start of 1970, a number of double precision, as a moment. The fraction is
taken to microseconds in double precision and rounded there, a half to the even neighbour. -/
def momentOfSeconds (seconds : Rat) : Except Failure Int :=
  let whole := truncate seconds
  let product := (nearestDouble? ((seconds - whole) * secondMicros)).getD 0
  let micros := roundHalfEven product
  if secondMicros ≤ micros then momentOfParts (whole + 1) (micros - secondMicros)
  else if micros < 0 then momentOfParts (whole - 1) (micros + secondMicros)
  else momentOfParts whole micros

/-- A number of two digits. -/
def twoDigits (n : Int) : List Char :=
  Text.padded 2 n.toNat

/-- An offset as a sign, hours and minutes, and seconds if there are any. -/
def offsetText (seconds : Int) : List Char :=
  let size := seconds.natAbs
  (if seconds < 0 then '-' else '+') :: Text.padded 2 (size / 3600) ++ ':' ::
    Text.padded 2 (size / 60 % 60) ++
    if size % 60 = 0 then [] else ':' :: Text.padded 2 (size % 60)

/-- The date and the time joined by a `T`, microseconds if there are any, and the offset if there is
one. -/
def toIso (i : Instant) : String :=
  let fraction := if i.micros = 0 then [] else '.' :: Text.padded 6 i.micros.toNat
  let offset := match i.offset? with
    | none => []
    | some seconds => offsetText seconds
  String.ofList <|
    Text.padded 4 i.date.year.toNat ++ '-' :: Text.padded 2 i.date.month ++ '-' ::
      Text.padded 2 i.date.day ++ 'T' :: twoDigits i.hour ++ ':' :: twoDigits i.minute ++ ':' ::
      twoDigits i.second ++ fraction ++ offset

end Instant

end ClockFace
