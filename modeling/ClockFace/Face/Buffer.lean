import ClockFace.Face.Span

/-! # Texts under deletion

A buffer is a text with spans that move along when characters of the text are deleted: an offset in
the deleted range falls back to its start, and one behind it moves forward. Deletion offsets may lie
anywhere; one below zero counts from the end of the text.

Each step is a computation on a buffer that may fail, and keeps what it has changed when it does. -/

namespace ClockFace

/-- A text and the spans on it, in the order in which they were added. -/
structure Buffer where
  text : List Char
  spans : List Span
  deriving DecidableEq, Repr

namespace Buffer

/-- The buffer of a text without spans. -/
def ofText (text : List Char) : Buffer :=
  ⟨text, []⟩

/-- The place in a text of the given length that an offset stands for. -/
def place (length : Nat) (offset : Int) : Nat :=
  if offset < 0 then (length + offset).toNat else min offset.toNat length

/-- Where an offset lies once the range from `start` to `stop` is deleted. -/
def shift (start stop : Int) (offset : Nat) : Int :=
  if (offset : Int) ≤ start then offset
  else if (offset : Int) < stop then start
  else offset - (stop - start)

/-- The span once the range from `start` to `stop` is deleted. -/
def shiftSpan (start stop : Int) (s : Span) : Except Failure Span :=
  Span.make s.kind (shift start stop s.start) (shift start stop s.stop) s.action

/-- The text without the characters from `start` to `stop`. -/
def cutText (start stop : Int) (text : List Char) : List Char :=
  text.take (place text.length start) ++ text.drop (place text.length stop)

/-- The spans once the range from `start` to `stop` is deleted. -/
def shiftSpans (start stop : Int) : List Span → Except Failure (List Span)
  | [] => .ok []
  | s :: rest =>
    match shiftSpan start stop s with
    | .error e => .error e
    | .ok moved =>
      match shiftSpans start stop rest with
      | .error e => .error e
      | .ok more => .ok (moved :: more)

/-- Add a span. -/
def addSpan (kind : SpanKind) (start stop : Int) (action : SpanAction) :
    ExceptT Failure (StateM Buffer) Unit := do
  let span ← ExceptT.mk (pure (Span.make kind start stop action))
  modify fun b => { b with spans := b.spans ++ [span] }

/-- Delete the characters from `start` to `stop`; a range that is empty or reversed deletes nothing.
The text changes before the spans move. -/
def delete (start stop : Int) : ExceptT Failure (StateM Buffer) Unit := do
  if stop - start ≤ 0 then return
  modify fun b => { b with text := cutText start stop b.text }
  let moved ← ExceptT.mk (pure (shiftSpans start stop (← get).spans))
  modify fun b => { b with spans := moved }

/-- The spans in the order of their starts; those with one start stay in the order of addition. -/
def sortedSpans (b : Buffer) : List Span :=
  b.spans.mergeSort fun a c => a.start ≤ c.start

end Buffer

end ClockFace
