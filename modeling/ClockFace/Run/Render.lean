import ClockFace.Face.DateText
import ClockFace.Run.Selector

/-! # Rendering

Writing the face of an instant with given formats, and noting when the date writer is asked. -/

namespace ClockFace

/-- The face of an instant. Both texts of the time are written before the date is. -/
def renderFace {σ : Type} (dates : DateWriter) (formats : TimeFormats) (layout : Layout)
    (instant : Instant) : Attempt σ Face := do
  let time ← Attempt.ofExcept (formats.display.write instant)
  let spoken ← Attempt.ofExcept (formats.spoken.write instant)
  if layout.showsDate then
    Attempt.event (.askedDate layout.datePattern layout.locale)
  Attempt.ofExcept (Face.compose layout (layout.writeDate dates instant) time spoken)

end ClockFace
