import ClockFace.Failure

/-! # Spans

A span marks a run of a text, counted in characters from its start, and says what becomes of the run.
`Span.make` is the only check: the run begins within or after the start of the text and does not end
before it begins. -/

namespace ClockFace

open Number

/-- Which run of the text a span marks. -/
inductive SpanKind where
  | dateEmphasis
  | amPmEmphasis
  deriving DecidableEq, Repr

namespace SpanKind

/-- The name of a kind. -/
def name : SpanKind → String
  | .dateEmphasis => "date_emphasis"
  | .amPmEmphasis => "am_pm_emphasis"

/-- The kind that a value names. -/
def ofValue (v : Value) : Except Failure SpanKind :=
  match v with
  | .text "date_emphasis" => .ok .dateEmphasis
  | .text "am_pm_emphasis" => .ok .amPmEmphasis
  | _ => .error (.spanKind v)

end SpanKind

/-- What becomes of a marked run. -/
inductive SpanAction where
  /-- It is shown at so many times the base size. -/
  | resize (factor : Decimal)
  /-- It is left out. -/
  | delete
  deriving DecidableEq, Repr

namespace SpanAction

/-- The size of small runs. -/
def smallFactor : Decimal := ⟨false, 7, -1⟩

/-- Small runs have seven tenths of the base size. -/
theorem toRat_smallFactor : smallFactor.toRat = 7 / 10 := by decide +kernel

/-- The action makes a run smaller. -/
def shrinks : SpanAction → Bool
  | .resize factor =>
    match factor.toDouble? with
    | some x => x < 1
    | none => factor.negative
  | .delete => false

end SpanAction

/-- A marked run of a text, from `start` until before `stop`. -/
structure Span where
  kind : SpanKind
  start : Nat
  stop : Nat
  action : SpanAction
  start_le_stop : start ≤ stop
  deriving DecidableEq, Repr

namespace Span

/-- The span with the given offsets, which must be in order and not before the start of the text. -/
def make (kind : SpanKind) (start stop : Int) (action : SpanAction) : Except Failure Span :=
  if h : 0 ≤ start ∧ start ≤ stop then
    .ok ⟨kind, start.toNat, stop.toNat, action, by omega⟩
  else .error (.spanOffsets start stop)

theorem make_natCast (kind : SpanKind) (start stop : Nat) (action : SpanAction)
    (h : start ≤ stop) :
    make kind start stop action = .ok ⟨kind, start, stop, action, h⟩ := by
  simp [make, h]

/-- The run of a text that a span marks. -/
def run (s : Span) (text : List Char) : List Char :=
  (text.take s.stop).drop s.start

end Span

end ClockFace
