import ClockFace.Locale.Basic

/-! # Traditional Chinese as written in Taiwan -/

namespace ClockFace.LocaleData

/-- The months inside a date. -/
def zhTwMonthsFormat : Widths (List String) :=
  { wide := ["1月", "2月", "3月", "4月", "5月", "6月", "7月", "8月", "9月", "10月", "11月", "12月"]
    abbreviated := ["1月", "2月", "3月", "4月", "5月", "6月", "7月", "8月", "9月", "10月", "11月", "12月"]
    narrow := ["1", "2", "3", "4", "5", "6", "7", "8", "9", "10", "11", "12"] }

/-- The weekdays inside a date. -/
def zhTwDaysFormat : DayNames :=
  { wide := ["星期一", "星期二", "星期三", "星期四", "星期五", "星期六", "星期日"]
    abbreviated := ["週一", "週二", "週三", "週四", "週五", "週六", "週日"]
    narrow := ["一", "二", "三", "四", "五", "六", "日"]
    short := ["一", "二", "三", "四", "五", "六", "日"] }

/-- The quarters inside a date. -/
def zhTwQuartersFormat : Widths (List String) :=
  { wide := ["第1季", "第2季", "第3季", "第4季"]
    abbreviated := ["第1季", "第2季", "第3季", "第4季"]
    narrow := ["1", "2", "3", "4"] }

/-- The day periods inside a date. -/
def zhTwPeriodsFormat : Widths (List (String × String)) :=
  { wide := []
    abbreviated :=
      [("am", "上午"), ("pm", "下午"), ("midnight", "午夜"), ("morning1", "清晨"), ("morning2", "上午"),
       ("afternoon1", "中午"), ("afternoon2", "下午"), ("evening1", "晚上"), ("night1", "凌晨")]
    narrow := [] }

/-- The day periods standing alone. -/
def zhTwPeriodsStandAlone : Widths (List (String × String)) :=
  { wide := []
    abbreviated := []
    narrow := [] }

/-- Traditional Chinese as written in Taiwan. -/
def zhTw : LocaleData where
  id := "zh_Hant_TW"
  firstWeekday := 6
  minWeekDays := 1
  gmtBefore := "GMT"
  gmtAfter := ""
  skeletons :=
    ⟨"HH:mm:ss", "Bh:mm:ss", "HH:mm", "Bh:mm"⟩
  months := ⟨zhTwMonthsFormat, zhTwMonthsFormat⟩
  days := ⟨zhTwDaysFormat, zhTwDaysFormat⟩
  quarters := ⟨zhTwQuartersFormat, zhTwQuartersFormat⟩
  era := ⟨"西元", "西元", "西元"⟩
  periods := ⟨zhTwPeriodsFormat, zhTwPeriodsStandAlone⟩
  periodRules :=
    [("midnight", [.at 0]), ("morning1", [.within 18000 28800]),
     ("morning2", [.within 28800 43200]), ("afternoon1", [.within 43200 46800]),
     ("afternoon2", [.within 46800 68400]), ("evening1", [.within 68400 86400]),
     ("night1", [.within 0 18000])]
  short := ⟨true, " ", "y/M/d", "Bh:mm"⟩
  medium := ⟨true, " ", "y年M月d日", "Bh:mm:ss"⟩

end ClockFace.LocaleData
