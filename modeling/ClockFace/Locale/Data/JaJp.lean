import ClockFace.Locale.Basic

/-! # Japanese as written in Japan -/

namespace ClockFace.LocaleData

/-- The months inside a date. -/
def jaJpMonthsFormat : Widths (List String) :=
  { wide := ["1月", "2月", "3月", "4月", "5月", "6月", "7月", "8月", "9月", "10月", "11月", "12月"]
    abbreviated := ["1月", "2月", "3月", "4月", "5月", "6月", "7月", "8月", "9月", "10月", "11月", "12月"]
    narrow := ["1", "2", "3", "4", "5", "6", "7", "8", "9", "10", "11", "12"] }

/-- The weekdays inside a date. -/
def jaJpDaysFormat : DayNames :=
  { wide := ["月曜日", "火曜日", "水曜日", "木曜日", "金曜日", "土曜日", "日曜日"]
    abbreviated := ["月", "火", "水", "木", "金", "土", "日"]
    narrow := ["月", "火", "水", "木", "金", "土", "日"]
    short := ["月", "火", "水", "木", "金", "土", "日"] }

/-- The quarters inside a date. -/
def jaJpQuartersFormat : Widths (List String) :=
  { wide := ["第1四半期", "第2四半期", "第3四半期", "第4四半期"]
    abbreviated := ["Q1", "Q2", "Q3", "Q4"]
    narrow := ["1", "2", "3", "4"] }

/-- The day periods inside a date. -/
def jaJpPeriodsFormat : Widths (List (String × String)) :=
  { wide := []
    abbreviated :=
      [("am", "午前"), ("pm", "午後"), ("midnight", "真夜中"), ("noon", "正午"), ("morning1", "朝"),
       ("afternoon1", "昼"), ("evening1", "夕方"), ("night1", "夜"), ("night2", "夜中")]
    narrow := [] }

/-- The day periods standing alone. -/
def jaJpPeriodsStandAlone : Widths (List (String × String)) :=
  { wide := []
    abbreviated := []
    narrow := [] }

/-- Japanese as written in Japan. -/
def jaJp : LocaleData where
  id := "ja_JP"
  firstWeekday := 6
  minWeekDays := 1
  gmtBefore := "GMT"
  gmtAfter := ""
  skeletons :=
    ⟨"H:mm:ss", "aK:mm:ss", "H:mm", "aK:mm"⟩
  months := ⟨jaJpMonthsFormat, jaJpMonthsFormat⟩
  days := ⟨jaJpDaysFormat, jaJpDaysFormat⟩
  quarters := ⟨jaJpQuartersFormat, jaJpQuartersFormat⟩
  era := ⟨"西暦", "西暦", "AD"⟩
  periods := ⟨jaJpPeriodsFormat, jaJpPeriodsStandAlone⟩
  periodRules :=
    [("midnight", [.at 0]), ("noon", [.at 43200]), ("morning1", [.within 14400 43200]),
     ("afternoon1", [.within 43200 57600]), ("evening1", [.within 57600 68400]),
     ("night1", [.within 68400 82800]), ("night2", [.within 82800 14400])]
  short := ⟨true, " ", "y/MM/dd", "H:mm"⟩
  medium := ⟨true, " ", "y/MM/dd", "H:mm:ss"⟩

end ClockFace.LocaleData
