import ClockFace.Locale.Basic

/-! # Scottish Gaelic as written in the United Kingdom -/

namespace ClockFace.LocaleData

/-- The months inside a date. -/
def gdGbMonthsFormat : Widths (List String) :=
  { wide :=
      ["dhen Fhaoilleach", "dhen Ghearran", "dhen Mhàrt", "dhen Ghiblean", "dhen Chèitean",
       "dhen Ògmhios", "dhen Iuchar", "dhen Lùnastal", "dhen t-Sultain", "dhen Dàmhair",
       "dhen t-Samhain", "dhen Dùbhlachd"]
    abbreviated :=
      ["Faoi", "Gearr", "Màrt", "Gibl", "Cèit", "Ògmh", "Iuch", "Lùna", "Sult", "Dàmh", "Samh",
       "Dùbh"]
    narrow := ["F", "G", "M", "G", "C", "Ò", "I", "L", "S", "D", "S", "D"] }

/-- The months standing alone. -/
def gdGbMonthsStandAlone : Widths (List String) :=
  { wide :=
      ["Am Faoilleach", "An Gearran", "Am Màrt", "An Giblean", "An Cèitean", "An t-Ògmhios",
       "An t-Iuchar", "An Lùnastal", "An t-Sultain", "An Dàmhair", "An t-Samhain", "An Dùbhlachd"]
    abbreviated :=
      ["Faoi", "Gearr", "Màrt", "Gibl", "Cèit", "Ògmh", "Iuch", "Lùna", "Sult", "Dàmh", "Samh",
       "Dùbh"]
    narrow := ["F", "G", "M", "G", "C", "Ò", "I", "L", "S", "D", "S", "D"] }

/-- The weekdays inside a date. -/
def gdGbDaysFormat : DayNames :=
  { wide :=
      ["DiLuain", "DiMàirt", "DiCiadain", "DiarDaoin", "DihAoine", "DiSathairne", "DiDòmhnaich"]
    abbreviated := ["DiL", "DiM", "DiC", "Dia", "Dih", "DiS", "DiD"]
    narrow := ["L", "M", "C", "A", "H", "S", "D"]
    short := ["Lu", "Mà", "Ci", "Da", "hA", "Sa", "Dò"] }

/-- The quarters inside a date. -/
def gdGbQuartersFormat : Widths (List String) :=
  { wide := ["1d chairteal", "2na cairteal", "3s cairteal", "4mh cairteal"]
    abbreviated := ["C1", "C2", "C3", "C4"]
    narrow := ["1", "2", "3", "4"] }

/-- The day periods inside a date. -/
def gdGbPeriodsFormat : Widths (List (String × String)) :=
  { wide := []
    abbreviated := [("am", "m"), ("pm", "f")]
    narrow := [] }

/-- The day periods standing alone. -/
def gdGbPeriodsStandAlone : Widths (List (String × String)) :=
  { wide := []
    abbreviated := []
    narrow := [] }

/-- Scottish Gaelic as written in the United Kingdom. -/
def gdGb : LocaleData where
  id := "gd_GB"
  firstWeekday := 0
  minWeekDays := 4
  gmtBefore := "GMT"
  gmtAfter := ""
  skeletons :=
    ⟨"HH:mm:ss", "h:mm:ss\u202fa", "HH:mm", "h:mma"⟩
  months := ⟨gdGbMonthsFormat, gdGbMonthsStandAlone⟩
  days := ⟨gdGbDaysFormat, gdGbDaysFormat⟩
  quarters := ⟨gdGbQuartersFormat, gdGbQuartersFormat⟩
  era := ⟨"An dèidh Chrìosta", "AD", "A"⟩
  periods := ⟨gdGbPeriodsFormat, gdGbPeriodsStandAlone⟩
  periodRules :=
    []
  short := ⟨true, " ", "dd/MM/y", "HH:mm"⟩
  medium := ⟨true, " ", "d'mh' MMM y", "HH:mm:ss"⟩

end ClockFace.LocaleData
