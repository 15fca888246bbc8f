import ClockFace.Locale.Basic

/-! # German as written in Germany -/

namespace ClockFace.LocaleData

/-- The months inside a date. -/
def deDeMonthsFormat : Widths (List String) :=
  { wide :=
      ["Januar", "Februar", "März", "April", "Mai", "Juni", "Juli", "August", "September",
       "Oktober", "November", "Dezember"]
    abbreviated :=
      ["Jan.", "Feb.", "März", "Apr.", "Mai", "Juni", "Juli", "Aug.", "Sept.", "Okt.", "Nov.",
       "Dez."]
    narrow := ["J", "F", "M", "A", "M", "J", "J", "A", "S", "O", "N", "D"] }

/-- The months standing alone. -/
def deDeMonthsStandAlone : Widths (List String) :=
  { wide :=
      ["Januar", "Februar", "März", "April", "Mai", "Juni", "Juli", "August", "September",
       "Oktober", "November", "Dezember"]
    abbreviated :=
      ["Jan", "Feb", "Mär", "Apr", "Mai", "Jun", "Jul", "Aug", "Sep", "Okt", "Nov", "Dez"]
    narrow := ["J", "F", "M", "A", "M", "J", "J", "A", "S", "O", "N", "D"] }

/-- The weekdays inside a date. -/
def deDeDaysFormat : DayNames :=
  { wide := ["Montag", "Dienstag", "Mittwoch", "Donnerstag", "Freitag", "Samstag", "Sonntag"]
    abbreviated := ["Mo.", "Di.", "Mi.", "Do.", "Fr.", "Sa.", "So."]
    narrow := ["M", "D", "M", "D", "F", "S", "S"]
    short := ["Mo.", "Di.", "Mi.", "Do.", "Fr.", "Sa.", "So."] }

/-- The weekdays standing alone. -/
def deDeDaysStandAlone : DayNames :=
  { wide := ["Montag", "Dienstag", "Mittwoch", "Donnerstag", "Freitag", "Samstag", "Sonntag"]
    abbreviated := ["Mo", "Di", "Mi", "Do", "Fr", "Sa", "So"]
    narrow := ["M", "D", "M", "D", "F", "S", "S"]
    short := ["Mo.", "Di.", "Mi.", "Do.", "Fr.", "Sa.", "So."] }

/-- The quarters inside a date. -/
def deDeQuartersFormat : Widths (List String) :=
  { wide := ["1. Quartal", "2. Quartal", "3. Quartal", "4. Quartal"]
    abbreviated := ["Q1", "Q2", "Q3", "Q4"]
    narrow := ["1", "2", "3", "4"] }

/-- The day periods inside a date. -/
def deDePeriodsFormat : Widths (List (String × String)) :=
  { wide :=
      [("midnight", "Mitternacht"), ("morning1", "morgens"), ("morning2", "vormittags"),
       ("afternoon1", "mittags"), ("afternoon2", "nachmittags"), ("evening1", "abends"),
       ("night1", "nachts")]
    abbreviated :=
      [("am", "AM"), ("pm", "PM"), ("midnight", "Mitternacht"), ("morning1", "morgens"),
       ("morning2", "vorm."), ("afternoon1", "mittags"), ("afternoon2", "nachm."),
       ("evening1", "abends"), ("night1", "nachts")]
    narrow := [] }

/-- The day periods standing alone. -/
def deDePeriodsStandAlone : Widths (List (String × String)) :=
  { wide :=
      [("morning1", "Morgen"), ("morning2", "Vormittag"), ("afternoon1", "Mittag"),
       ("afternoon2", "Nachmittag"), ("evening1", "Abend"), ("night1", "Nacht")]
    abbreviated :=
      [("morning1", "Morgen"), ("morning2", "Vorm."), ("afternoon1", "Mittag"),
       ("afternoon2", "Nachm."), ("evening1", "Abend"), ("night1", "Nacht")]
    narrow := [] }

/-- German as written in Germany. -/
def deDe : LocaleData where
  id := "de_DE"
  firstWeekday := 0
  minWeekDays := 4
  gmtBefore := "GMT"
  gmtAfter := ""
  skeletons :=
    ⟨"HH:mm:ss", "h:mm:ss\u202fa", "HH:mm", "h:mm\u202fa"⟩
  months := ⟨deDeMonthsFormat, deDeMonthsStandAlone⟩
  days := ⟨deDeDaysFormat, deDeDaysStandAlone⟩
  quarters := ⟨deDeQuartersFormat, deDeQuartersFormat⟩
  era := ⟨"unserer Zeitrechnung", "n. Chr.", "n. Chr."⟩
  periods := ⟨deDePeriodsFormat, deDePeriodsStandAlone⟩
  periodRules :=
    [("midnight", [.at 0]), ("morning1", [.within 18000 36000]),
     ("morning2", [.within 36000 43200]), ("afternoon1", [.within 43200 46800]),
     ("afternoon2", [.within 46800 64800]), ("evening1", [.within 64800 86400]),
     ("night1", [.within 0 18000])]
  short := ⟨true, ", ", "dd.MM.yy", "HH:mm"⟩
  medium := ⟨true, ", ", "dd.MM.y", "HH:mm:ss"⟩

end ClockFace.LocaleData
