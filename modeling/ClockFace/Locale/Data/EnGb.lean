import ClockFace.Locale.Basic

/-! # English as written in the United Kingdom -/

namespace ClockFace.LocaleData

/-- The months inside a date. -/
def enGbMonthsFormat : Widths (List String) :=
  { wide :=
      ["January", "February", "March", "April", "May", "June", "July", "August", "September",
       "October", "November", "December"]
    abbreviated :=
      ["Jan", "Feb", "Mar", "Apr", "May", "Jun", "Jul", "Aug", "Sept", "Oct", "Nov", "Dec"]
    narrow := ["J", "F", "M", "A", "M", "J", "J", "A", "S", "O", "N", "D"] }

/-- The weekdays inside a date. -/
def enGbDaysFormat : DayNames :=
  { wide := ["Monday", "Tuesday", "Wednesday", "Thursday", "Friday", "Saturday", "Sunday"]
    abbreviated := ["Mon", "Tue", "Wed", "Thu", "Fri", "Sat", "Sun"]
    narrow := ["M", "T", "W", "T", "F", "S", "S"]
    short := ["Mo", "Tu", "We", "Th", "Fr", "Sa", "Su"] }

/-- The quarters inside a date. -/
def enGbQuartersFormat : Widths (List String) :=
  { wide := ["1st quarter", "2nd quarter", "3rd quarter", "4th quarter"]
    abbreviated := ["Q1", "Q2", "Q3", "Q4"]
    narrow := ["1", "2", "3", "4"] }

/-- The day periods inside a date. -/
def enGbPeriodsFormat : Widths (List (String × String)) :=
  { wide :=
      [("midnight", "midnight"), ("am", "am"), ("noon", "noon"), ("pm", "pm"),
       ("morning1", "in the morning"), ("afternoon1", "in the afternoon"),
       ("evening1", "in the evening"), ("night1", "at night")]
    abbreviated :=
      [("am", "am"), ("pm", "pm"), ("midnight", "midnight"), ("noon", "noon"),
       ("morning1", "in the morning"), ("afternoon1", "in the afternoon"),
       ("evening1", "in the evening"), ("night1", "at night")]
    narrow :=
      [("midnight", "mi"), ("am", "a"), ("noon", "n"), ("pm", "p"),
       ("morning1", "in the morning"), ("afternoon1", "in the afternoon"),
       ("evening1", "in the evening"), ("night1", "at night")] }

/-- The day periods standing alone. -/
def enGbPeriodsStandAlone : Widths (List (String × String)) :=
  { wide :=
      [("midnight", "midnight"), ("am", "am"), ("noon", "noon"), ("pm", "pm"),
       ("morning1", "morning"), ("afternoon1", "afternoon"), ("evening1", "evening"),
       ("night1", "night")]
    abbreviated :=
      [("midnight", "midnight"), ("am", "am"), ("noon", "noon"), ("pm", "pm"),
       ("morning1", "morning"), ("afternoon1", "afternoon"), ("evening1", "evening"),
       ("night1", "night")]
    narrow :=
      [("midnight", "midnight"), ("am", "am"), ("noon", "noon"), ("pm", "pm"),
       ("morning1", "morning"), ("afternoon1", "afternoon"), ("evening1", "evening"),
       ("night1", "night")] }

/-- English as written in the United Kingdom. -/
def enGb : LocaleData where
  id := "en_GB"
  firstWeekday := 0
  minWeekDays := 4
  gmtBefore := "GMT"
  gmtAfter := ""
  skeletons :=
    ⟨"HH:mm:ss", "h:mm:ss a", "HH:mm", "h:mm a"⟩
  months := ⟨enGbMonthsFormat, enGbMonthsFormat⟩
  days := ⟨enGbDaysFormat, enGbDaysFormat⟩
  quarters := ⟨enGbQuartersFormat, enGbQuartersFormat⟩
  era := ⟨"Anno Domini", "AD", "A"⟩
  periods := ⟨enGbPeriodsFormat, enGbPeriodsStandAlone⟩
  periodRules :=
    [("midnight", [.at 0]), ("noon", [.at 43200]), ("morning1", [.within 0 43200]),
     ("afternoon1", [.within 43200 64800]), ("evening1", [.within 64800 75600]),
     ("night1", [.within 75600 86400])]
  short := ⟨true, ", ", "dd/MM/y", "HH:mm"⟩
  medium := ⟨true, ", ", "d MMM y", "HH:mm:ss"⟩

end ClockFace.LocaleData
