/-! # Locale data

What one locale supplies: names in the widths and contexts that they differ in, the rules of its day
periods, its week, and its time and date patterns. -/

namespace ClockFace

/-- Names in three widths. -/
structure Widths (α : Type) where
  wide : α
  abbreviated : α
  narrow : α

/-- Names inside a date and names that stand alone. -/
structure Contexts (α : Type) where
  format : α
  standAlone : α

/-- The names of the weekdays, Monday first, which have a fourth width. -/
structure DayNames extends Widths (List String) where
  short : List String

/-- When a day period applies, in seconds past midnight. -/
inductive PeriodRule where
  /-- At one second only. -/
  | at (second : Nat)
  /-- From one second until before another, past midnight if the second is not the later one. -/
  | within (start stop : Nat)

/-- The four time patterns of a locale: with or without seconds, for the 24-hour or the 12-hour
clock. -/
structure Skeletons where
  hourMinuteSecond24 : String
  hourMinuteSecond12 : String
  hourMinute24 : String
  hourMinute12 : String
  deriving DecidableEq, Repr

namespace Skeletons

/-- The pattern for a kind of clock. -/
def select (s : Skeletons) (hour24 showSeconds : Bool) : String :=
  match showSeconds, hour24 with
  | true, true => s.hourMinuteSecond24
  | true, false => s.hourMinuteSecond12
  | false, true => s.hourMinute24
  | false, false => s.hourMinute12

end Skeletons

/-- A named date and time format: which of the two comes first, what stands between them, and the
patterns of both. -/
structure NamedFormat where
  dateFirst : Bool
  separator : String
  date : String
  time : String

/-- The data of one locale. `gmtBefore` and `gmtAfter` surround the offset in a zone's long form;
weekdays count from Monday, which is 0. -/
structure LocaleData where
  id : String
  firstWeekday : Nat
  minWeekDays : Nat
  gmtBefore : String
  gmtAfter : String
  skeletons : Skeletons
  months : Contexts (Widths (List String))
  days : Contexts DayNames
  quarters : Contexts (Widths (List String))
  era : Widths String
  periods : Contexts (Widths (List (String × String)))
  periodRules : List (String × List PeriodRule)
  short : NamedFormat
  medium : NamedFormat

end ClockFace
