import ClockFace.Face.Buffer
import ClockFace.Pattern.Basic
import ClockFace.Pattern.Marker
import ClockFace.Setting.Config
import ClockFace.Text.Case

/-! # Faces

A face is what a display shows at one tick: the text of the time, with the date beside it, the spans
that say which runs are small, and a plain text for reading aloud.

`Face.compose` puts a face together from written texts. It places the date first and then looks for
the marked AM/PM run in the whole text, so that the run is found wherever it is. -/

namespace ClockFace

/-- What is shown at one tick. -/
structure Face where
  text : List Char
  spans : List Span
  spoken : List Char
  deriving DecidableEq, Repr

/-- The settings that a face depends on, which may not have been checked. -/
structure Layout where
  emphasis : Given Emphasis
  dateVisibility : Given DateVisibility
  dateCase : Given DateCase
  datePosition : Given DatePosition
  datePattern : String
  locale : String

/-- The part of a configuration that a face depends on. -/
def Config.layout (c : Config) : Layout where
  emphasis := .known c.emphasis
  dateVisibility := .known c.dateVisibility
  dateCase := .known c.dateCase
  datePosition := .known c.datePosition
  datePattern := c.datePattern
  locale := c.locale

/-- Writes the date of an instant for a pattern and a locale tag. -/
abbrev DateWriter := Instant → String → String → Except Failure (List Char)

namespace Layout

/-- A date is asked for. -/
def showsDate (l : Layout) : Bool :=
  match l.dateVisibility with
  | .known .none => false
  | _ => true

/-- A text in the case of the layout. -/
def applyCase (l : Layout) (text : List Char) : Except Failure (List Char) :=
  match l.dateCase with
  | .known .asIs => .ok text
  | .known .lower => .ok (Text.lower text)
  | .known .upper => .ok (Text.upper text)
  | .unknown v => .error (if v.isCompound then .noLookup v else .dateCase v)

/-- The date of an instant in the case of the layout. -/
def writeDate (l : Layout) (dates : DateWriter) (instant : Instant) : Except Failure (List Char) :=
  dates instant l.datePattern l.locale >>= l.applyCase

end Layout

/-- What is shown of a text in a case that has been checked. -/
def DateCase.shown : DateCase → List Char → List Char
  | .asIs, text => text
  | .lower, text => Text.lower text
  | .upper, text => Text.upper text

namespace Config

/-- Checked settings have a case that can be applied. -/
theorem applyCase_layout (c : Config) (text : List Char) :
    c.layout.applyCase text = .ok (c.dateCase.shown text) := by
  have hknown : c.layout.dateCase = .known c.dateCase := rfl
  rw [Layout.applyCase, hknown]
  cases c.dateCase <;> rfl

/-- The date of checked settings is the text that the writer gives for their pattern and locale, in
their case. It fails only where the writer does. -/
theorem writeDate_layout (c : Config) (dates : DateWriter) (instant : Instant) :
    c.layout.writeDate dates instant =
      (dates instant c.datePattern c.locale).map c.dateCase.shown := by
  show dates instant c.datePattern c.locale >>= c.layout.applyCase = _
  cases dates instant c.datePattern c.locale with
  | error e => rfl
  | ok text => exact c.applyCase_layout text

end Config

namespace Face

/-- What stands between the date and the time. -/
def separator : List Char := [' ']

/-- The date and the time side by side, and the offset of the date. -/
def join (l : Layout) (date time : List Char) : Except Failure (List Char × Nat) :=
  match l.datePosition with
  | .known .left => .ok (date ++ separator ++ time, 0)
  | .known .right => .ok (time ++ separator ++ date, time.length + separator.length)
  | .unknown v => .error (.datePosition v)

/-- The time with the date beside it, if the date is shown. -/
def addDate (l : Layout) (date : Except Failure (List Char)) (time : List Char) :
    Except Failure Buffer :=
  match l.dateVisibility with
  | .known .none => .ok (Buffer.ofText time)
  | shown => do
    let date ← date
    let (text, start) ← join l date time
    match shown with
    | .known .small =>
      let span ← Span.make .dateEmphasis start (start + date.length)
        (.resize SpanAction.smallFactor)
      return ⟨text, [span]⟩
    | .known _ => return Buffer.ofText text
    | .unknown v => throw (.dateVisibility v)

/-- The offset of a character's first occurrence in a text. -/
def find? (c : Char) (text : List Char) : Option Nat :=
  text.findIdx? (· == c)

/-- The marked run of a text: the offsets of the first opening and the first closing marker, if they
come in this order. -/
def markedRun? (text : List Char) : Option (Nat × Nat) :=
  match find? Marker.opening text, find? Marker.closing text with
  | some start, some stop => if start < stop then some (start, stop) else none
  | _, _ => none

/-- Show the marked run as the layout asks for and take the markers away. -/
def showRun (l : Layout) (start stop : Nat) : ExceptT Failure (StateM Buffer) Unit :=
  match l.emphasis with
  | .known .none => Buffer.delete start (stop + 1)
  | .known .small => do
    -- The closing marker goes before the opening one, whose offset then still holds.
    Buffer.addSpan .amPmEmphasis (start + 1) stop (.resize SpanAction.smallFactor)
    Buffer.delete stop (stop + 1)
    Buffer.delete start (start + 1)
  | .known .normal => do
    Buffer.delete stop (stop + 1)
    Buffer.delete start (start + 1)
  | .unknown v => throw (.shownEmphasis v)

/-- The buffer with its marked run shown as the layout asks for. -/
def settleRun (l : Layout) (b : Buffer) : Except Failure Buffer :=
  match markedRun? b.text with
  | none => .ok b
  | some (start, stop) =>
    match (showRun l start stop).run b with
    | (.ok (), settled) => .ok settled
    | (.error e, _) => .error e

/-- Put a face together from the texts of the time, of the date and for reading aloud. -/
def compose (l : Layout) (date : Except Failure (List Char)) (time spoken : List Char) :
    Except Failure Face := do
  let b ← addDate l date time
  let b ← settleRun l b
  return ⟨b.text, b.sortedSpans, spoken⟩

/-- The first span of a kind. -/
def spanFor? (f : Face) (kind : SpanKind) : Option Span :=
  f.spans.find? (·.kind == kind)

end Face

end ClockFace
