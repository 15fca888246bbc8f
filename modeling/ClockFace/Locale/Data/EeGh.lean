import ClockFace.Locale.Basic

/-! # Ewe as written in Ghana -/

namespace ClockFace.LocaleData

/-- The months inside a date. -/
def eeGhMonthsFormat : Widths (List String) :=
  { wide :=
      ["dzove", "dzodze", "tedoxe", "afɔfĩe", "dame", "masa", "siamlɔm", "deasiamime", "anyɔnyɔ",
       "kele", "adeɛmekpɔxe", "dzome"]
    abbreviated :=
      ["dzv", "dzd", "ted", "afɔ", "dam", "mas", "sia", "dea", "any", "kel", "ade", "dzm"]
    narrow := ["d", "d", "t", "a", "d", "m", "s", "d", "a", "k", "a", "d"] }

/-- The weekdays inside a date. -/
def eeGhDaysFormat : DayNames :=
  { wide := ["dzoɖa", "blaɖa", "kuɖa", "yawoɖa", "fiɖa", "memleɖa", "kɔsiɖa"]
    abbreviated := ["dzo", "bla", "kuɖ", "yaw", "fiɖ", "mem", "kɔs"]
    narrow := ["d", "b", "k", "y", "f", "m", "k"]
    short := ["dzo", "bla", "kuɖ", "yaw", "fiɖ", "mem", "kɔs"] }

/-- The quarters inside a date. -/
def eeGhQuartersFormat : Widths (List String) :=
  { wide := ["kɔta gbãtɔ", "kɔta evelia", "kɔta etɔ\u0303lia", "kɔta enelia"]
    abbreviated := ["k1", "k2", "k3", "k4"]
    narrow := ["1", "2", "3", "4"] }

/-- The day periods inside a date. -/
def eeGhPeriodsFormat : Widths (List (String × String)) :=
  { wide := []
    abbreviated :=
      [("am", "ŋdi"), ("pm", "ɣetrɔ"), ("morning1", "fɔŋli"), ("morning2", "ŋdi"),
       ("afternoon1", "ŋdɔ"), ("afternoon2", "ɣetrɔ"), ("evening1", "fiẽ"), ("night1", "zã")]
    narrow := [("am", "ŋ"), ("pm", "ɣ")] }

/-- The day periods standing alone. -/
def eeGhPeriodsStandAlone : Widths (List (String × String)) :=
  { wide := []
    abbreviated := []
    narrow := [("am", "ŋ"), ("pm", "ɣ")] }

/-- Ewe as written in Ghana. -/
def eeGh : LocaleData where
  id := "ee_GH"
  firstWeekday := 0
  minWeekDays := 1
  gmtBefore := ""
  gmtAfter := " GMT"
  skeletons :=
    ⟨"HH:mm:ss", "a 'ga' h:mm:ss", "HH:mm", "a 'ga' h:mm"⟩
  months := ⟨eeGhMonthsFormat, eeGhMonthsFormat⟩
  days := ⟨eeGhDaysFormat, eeGhDaysFormat⟩
  quarters := ⟨eeGhQuartersFormat, eeGhQuartersFormat⟩
  era := ⟨"Yesu ŋɔli", "Yŋ", "Yŋ"⟩
  periods := ⟨eeGhPeriodsFormat, eeGhPeriodsStandAlone⟩
  periodRules :=
    [("morning1", [.within 14400 18000]), ("morning2", [.within 18000 43200]),
     ("afternoon1", [.within 43200 50400]), ("afternoon2", [.within 50400 64800]),
     ("evening1", [.within 64800 75600]), ("night1", [.within 75600 14400])]
  short := ⟨false, " ", "M/d/yy", "a 'ga' h:mm"⟩
  medium := ⟨false, " ", "MMM d 'lia', y", "a 'ga' h:mm:ss"⟩

end ClockFace.LocaleData
