import ClockFace.Locale.Basic

/-! # English as written in the United States -/

namespace ClockFace.LocaleData

/-- The months inside a date. -/
def enUsMonthsFormat : Widths (List String) :=
  { wide :=
      ["January", "February", "March", "April", "May", "June", "July", "August", "September",
       "October", "November", "December"]
    abbreviated :=
      ["Jan", "Feb", "Mar", "Apr", "May", "Jun", "Jul", "Aug", "Sep", "Oct", "Nov", "Dec"]
    narrow := ["J", "F", "M", "A", "M", "J", "J", "A", "S", "O", "N", "D"] }

/-- The weekdays inside a date. -/
def enUsDaysFormat : DayNames :=
  { wide := ["Monday", "Tuesday", "Wednesday", "Thursday", "Friday", "Saturday", "Sunday"]
    abbreviated := ["Mon", "Tue", "Wed", "Thu", "Fri", "Sat", "Sun"]
    narrow := ["M", "T", "W", "T", "F", "S", "S"]
    short := ["Mo", "Tu", "We", "Th", "Fr", "Sa", "Su"] }

/-- The quarters inside a date. -/
def enUsQuartersFormat : Widths (List String) :=
  { wide := ["1st quarter", "2nd quarter", "3rd quarter", "4th quarter"]
    abbreviated := ["Q1", "Q2", "Q3", "Q4"]
    narrow := ["1", "2", "3", "4"] }

/-- The day periods inside a date. -/
def enUsPeriodsFormat : Widths (List (String × String)) :=
  { wide :=
      [("midnight", "midnight"), ("am", "AM"), ("noon", "noon"), ("pm", "PM"),
       ("morning1", "in the morning"), ("afternoon1", "in the afternoon"),
       ("evening1", "in the evening"), ("night1", "at night")]
    abbreviated :=
      [("am", "AM"), ("pm", "PM"), ("midnight", "midnight"), ("noon", "noon"),
       ("morning1", "in the morning"), ("afternoon1", "in the afternoon"),
       ("evening1", "in the evening"), ("night1", "at night")]
    narrow :=
      [("midnight", "mi"), ("am", "a"), ("noon", "n"), ("pm", "p"),
       ("morning1", "in the morning"), ("afternoon1", "in the afternoon"),
       ("evening1", "in the evening"), ("night1", "at night")] }

/-- The day periods standing alone. -/
def enUsPeriodsStandAlone : Widths (List (String × String)) :=
  { wide :=
      [("midnight", "midnight"), ("am", "AM"), ("noon", "noon"), ("pm", "PM"),
       ("morning1", "morning"), ("afternoon1", "afternoon"), ("evening1", "evening"),
       ("night1", "night")]
    abbreviated :=
      [("midnight", "midnight"), ("am", "AM"), ("noon", "noon"), ("pm", "PM"),
       ("morning1", "morning"), ("afternoon1", "afternoon"), ("evening1", "evening"),
       ("night1", "night")]
    narrow :=
      [("midnight", "midnight"), ("am", "AM"), ("noon", "noon"), ("pm", "PM"),
       ("morning1", "morning"), ("afternoon1", "afternoon"), ("evening1", "evening"),
       ("night1", "night")] }

/-- English as written in the United States. -/
def enUs : LocaleData where
  id := "en_US"
  firstWeekday := 6
  minWeekDays := 1
  gmtBefore := "GMT"
  gmtAfter := ""
  skeletons :=
    ⟨"HH:mm:ss", "h:mm:ss a", "HH:mm", "h:mm a"⟩
  months := ⟨enUsMonthsFormat, enUsMonthsFormat⟩
  days := ⟨enUsDaysFormat, enUsDaysFormat⟩
  quarters := ⟨enUsQuartersFormat, enUsQuartersFormat⟩
  era := ⟨"Anno Domini", "AD", "A"⟩
  periods := ⟨enUsPeriodsFormat, enUsPeriodsStandAlone⟩
  periodRules :=
    [("midnight", [.at 0]), ("noon", [.at 43200]), ("morning1", [.within 0 43200]),
     ("afternoon1", [.within 43200 64800]), ("evening1", [.within 64800 75600]),
     ("night1", [.within 75600 86400])]
  short := ⟨true, ", ", "M/d/yy", "h:mm\u202fa"⟩
  medium := ⟨true, ", ", "MMM d, y", "h:mm:ss\u202fa"⟩

end ClockFace.LocaleData
