import ClockFace.Locale.Basic
import ClockFace.Text.Digit

/-! # Offsets in patterns

How a pattern writes an offset from universal time. An offset is cut to whole hours downward, so
that a half-hour zone west of Greenwich shows the hour below and the minutes above it. -/

namespace ClockFace

/-- The forms of an offset. -/
inductive OffsetForm where
  /-- Sign, hours and minutes. -/
  | basic
  /-- Sign and hours, and the minutes if there are any. -/
  | short
  /-- Sign, hours and minutes with a colon. -/
  | extended
  /-- The extended form inside the locale's text. -/
  | long
  deriving DecidableEq, Repr

namespace OffsetForm

/-- The whole hours of an offset with their sign, of two digits. -/
def hoursText (hours : Int) : List Char :=
  (if hours < 0 then '-' else '+') :: Text.padded 2 hours.natAbs

/-- Write an offset in seconds; `zulu` asks for a single letter where the offset is zero. -/
def write (form : OffsetForm) (zulu : Bool) (data : LocaleData) (seconds : Int) : List Char :=
  let hours := seconds / 3600
  let rest := seconds % 3600
  let minutes := Text.padded 2 (rest / 60).toNat
  if zulu && hours = 0 && rest = 0 then ['Z']
  else match form with
    | .short => if rest = 0 then hoursText hours else hoursText hours ++ minutes
    | .basic => hoursText hours ++ minutes
    | .extended => hoursText hours ++ ':' :: minutes
    | .long =>
      data.gmtBefore.toList ++ hoursText hours ++ ':' :: minutes ++ data.gmtAfter.toList

end OffsetForm

end ClockFace
