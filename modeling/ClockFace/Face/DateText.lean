import ClockFace.Face.Basic
import ClockFace.Locale.Resolve

/-! # Dates

How a date is written: with one of the locale's two named formats, which join a date and a time, or
with a pattern of its own. -/

namespace ClockFace

namespace NamedFormat

/-- The date and the time of an instant in a named format. The time is written first. -/
def write (f : NamedFormat) (locale : Locale) (instant : Instant) : Except Failure (List Char) := do
  let time ← Pattern.writeText f.time.toList locale instant
  let date ← Pattern.writeText f.date.toList locale instant
  let separator := f.separator.toList
  return if f.dateFirst then date ++ separator ++ time else time ++ separator ++ date

end NamedFormat

namespace DateText

/-- Write the date of an instant with the locale's own names. -/
def write : DateWriter := fun instant pattern tag => do
  let locale ← Locale.ofTag tag
  match pattern with
  | "short" => locale.data.short.write locale instant
  | "medium" => locale.data.medium.write locale instant
  | _ => Pattern.writeText pattern.toList locale instant

end DateText

end ClockFace
