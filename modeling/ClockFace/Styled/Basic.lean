/-! # Styled texts

A styled text is a text with a base style and styles on parts of it, for terminals that show styles
but no sizes. Styles are names; the empty name is no style.

Cutting a text cuts its styles (`slice`), and joining two texts turns the base style of the second
into a style on its part (`append`). -/

namespace ClockFace

/-- A style on the characters from `start` until before `stop`. -/
structure StyleRun where
  start : Nat
  stop : Nat
  style : String
  deriving DecidableEq, Repr

/-- A text, its base style and the styles on its parts. -/
structure StyledText where
  plain : List Char
  base : String
  runs : List StyleRun
  deriving DecidableEq, Repr

namespace StyledText

/-- The control characters that move the cursor or ring the bell. -/
def isControl (c : Char) : Bool :=
  let n := c.toNat
  n == 0x07 || n == 0x08 || n == 0x0B || n == 0x0C || n == 0x0D

/-- A text in a base style, without control characters. -/
def ofText (text : List Char) (base : String) : StyledText :=
  ⟨text.filter (!isControl ·), base, []⟩

/-- Put a style on the characters from `start` until before `stop`, as far as there are any. -/
def stylize (t : StyledText) (style : String) (start stop : Nat) : StyledText :=
  if style.isEmpty || t.plain.length ≤ start || stop ≤ start then t
  else { t with runs := t.runs ++ [⟨start, min stop t.plain.length, style⟩] }

/-- The part of a style that lies between two offsets, counted from the first; none if there is no
part of it. -/
def cutRun? (start stop : Nat) (r : StyleRun) : Option StyleRun :=
  let first := max r.start start
  let last := min r.stop stop
  if first < last then some ⟨first - start, last - start, r.style⟩ else none

/-- The part of a styled text between two offsets. -/
def slice (t : StyledText) (start stop : Nat) : StyledText :=
  let stop := min stop t.plain.length
  ⟨(t.plain.take stop).drop start, t.base, t.runs.filterMap (cutRun? start stop)⟩

/-- A style further along. -/
def StyleRun.shift (distance : Nat) (r : StyleRun) : StyleRun :=
  ⟨r.start + distance, r.stop + distance, r.style⟩

/-- One styled text after another. The base style of the second becomes a style on its part, unless
there is no such part. -/
def append (a b : StyledText) : StyledText :=
  if b.plain.isEmpty then a
  else
    let base := if b.base.isEmpty then []
      else [⟨a.plain.length, a.plain.length + b.plain.length, b.base⟩]
    ⟨a.plain ++ b.plain, a.base, a.runs ++ base ++ b.runs.map (StyleRun.shift a.plain.length)⟩

/-- The styled text without the characters from `start` until before `stop`. -/
def delete (t : StyledText) (start stop : Nat) : StyledText :=
  (t.slice 0 start).append (t.slice stop t.plain.length)

end StyledText

end ClockFace
