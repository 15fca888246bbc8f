import ClockFace.Locale.Basic

/-! # Low German as written in Germany -/

namespace ClockFace.LocaleData

/-- The months inside a date. -/
def ndsDeMonthsFormat : Widths (List String) :=
  { wide :=
      ["Januaar", "Februaar", "März", "April", "Mai", "Juni", "Juli", "August", "September",
       "Oktover", "November", "Dezember"]
    abbreviated :=
      ["Jan.", "Feb.", "März", "Apr.", "Mai", "Juni", "Juli", "Aug.", "Sep.", "Okt.", "Nov.",
       "Dez."]
    narrow := ["J", "F", "M", "A", "M", "J", "J", "A", "S", "O", "N", "D"] }

/-- The weekdays inside a date. -/
def ndsDeDaysFormat : DayNames :=
  { wide :=
      ["Maandag", "Dingsdag", "Middeweken", "Dunnersdag", "Freedag", "Sünnavend", "Sünndag"]
    abbreviated := ["Ma.", "Di.", "Mi.", "Du.", "Fr.", "Sa.", "Sü."]
    narrow := ["M", "D", "M", "D", "F", "S", "S"]
    short := ["Ma.", "Di.", "Mi.", "Du.", "Fr.", "Sa.", "Sü."] }

/-- The quarters inside a date. -/
def ndsDeQuartersFormat : Widths (List String) :=
  { wide := ["1. Quartaal", "2. Quartaal", "3. Quartaal", "4. Quartaal"]
    abbreviated := ["Q.1", "Q.2", "Q.3", "Q.4"]
    narrow := ["Q1", "Q2", "Q3", "Q4"] }

/-- The quarters standing alone. -/
def ndsDeQuartersStandAlone : Widths (List String) :=
  { wide := ["1. Quartaal", "2. Quartaal", "3. Quartaal", "4. Quartaal"]
    abbreviated := ["Q. I", "Q. II", "Q. III", "Q. IV"]
    narrow := ["Q1", "Q2", "Q3", "Q4"] }

/-- The day periods inside a date. -/
def ndsDePeriodsFormat : Widths (List (String × String)) :=
  { wide := []
    abbreviated := [("am", "vm"), ("pm", "nm")]
    narrow := [] }

/-- The day periods standing alone. -/
def ndsDePeriodsStandAlone : Widths (List (String × String)) :=
  { wide := []
    abbreviated := []
    narrow := [] }

/-- Low German as written in Germany. -/
def ndsDe : LocaleData where
  id := "nds_DE"
  firstWeekday := 0
  minWeekDays := 4
  gmtBefore := "GMT"
  gmtAfter := ""
  skeletons :=
    ⟨"'Klock' H.mm:ss", "'Klock' h.mm:ss\u202fa", "'Kl'. H.mm", "'Kl'. h.mm\u202fa"⟩
  months := ⟨ndsDeMonthsFormat, ndsDeMonthsFormat⟩
  days := ⟨ndsDeDaysFormat, ndsDeDaysFormat⟩
  quarters := ⟨ndsDeQuartersFormat, ndsDeQuartersStandAlone⟩
  era := ⟨"na Christus", "n.Chr.", "nC"⟩
  periods := ⟨ndsDePeriodsFormat, ndsDePeriodsStandAlone⟩
  periodRules :=
    []
  short := ⟨true, ", ", "d.MM.yy", "'Kl'. H.mm"⟩
  medium := ⟨true, ", ", "d. MMM y", "'Klock' H.mm:ss"⟩

end ClockFace.LocaleData
