import ClockFace.Locale.Basic

/-! # Arabic as written in Egypt -/

namespace ClockFace.LocaleData

/-- The months inside a date. -/
def arEgMonthsFormat : Widths (List String) :=
  { wide :=
      ["يناير", "فبراير", "مارس", "أبريل", "مايو", "يونيو", "يوليو", "أغسطس", "سبتمبر", "أكتوبر",
       "نوفمبر", "ديسمبر"]
    abbreviated :=
      ["يناير", "فبراير", "مارس", "أبريل", "مايو", "يونيو", "يوليو", "أغسطس", "سبتمبر", "أكتوبر",
       "نوفمبر", "ديسمبر"]
    narrow := ["ي", "ف", "م", "أ", "و", "ن", "ل", "غ", "س", "ك", "ب", "د"] }

/-- The weekdays inside a date. -/
def arEgDaysFormat : DayNames :=
  { wide := ["الاثنين", "الثلاثاء", "الأربعاء", "الخميس", "الجمعة", "السبت", "الأحد"]
    abbreviated := ["الاثنين", "الثلاثاء", "الأربعاء", "الخميس", "الجمعة", "السبت", "الأحد"]
    narrow := ["ن", "ث", "ر", "خ", "ج", "س", "ح"]
    short := ["إثنين", "ثلاثاء", "أربعاء", "خميس", "جمعة", "سبت", "أحد"] }

/-- The quarters inside a date. -/
def arEgQuartersFormat : Widths (List String) :=
  { wide := ["الربع الأول", "الربع الثاني", "الربع الثالث", "الربع الرابع"]
    abbreviated := ["الربع الأول", "الربع الثاني", "الربع الثالث", "الربع الرابع"]
    narrow := ["١", "٢", "٣", "٤"] }

/-- The day periods inside a date. -/
def arEgPeriodsFormat : Widths (List (String × String)) :=
  { wide :=
      [("morning1", "في الصباح"), ("morning2", "صباح\u064bا"), ("afternoon1", "ظهر\u064bا"),
       ("afternoon2", "بعد الظهر"), ("evening1", "مساء\u064b"), ("night1", "في المساء"),
       ("night2", "ليلا\u064b")]
    abbreviated :=
      [("am", "ص"), ("pm", "م"), ("morning1", "فجر\u064bا"), ("morning2", "ص"),
       ("afternoon1", "ظهر\u064bا"), ("afternoon2", "بعد الظهر"), ("evening1", "مساء\u064b"),
       ("night1", "في المساء"), ("night2", "ليلا\u064b")]
    narrow :=
      [("morning1", "فجر\u064bا"), ("morning2", "صباح\u064bا"), ("afternoon1", "ظهر\u064bا"),
       ("afternoon2", "بعد الظهر"), ("evening1", "مساء\u064b"), ("night1", "منتصف الليل"),
       ("night2", "ليلا\u064b")] }

/-- The day periods standing alone. -/
def arEgPeriodsStandAlone : Widths (List (String × String)) :=
  { wide :=
      [("am", "صباح\u064bا"), ("pm", "مساء\u064b"), ("morning1", "فجر\u064bا"),
       ("morning2", "صباح\u064bا"), ("afternoon1", "ظهر\u064bا"), ("afternoon2", "بعد الظهر"),
       ("evening1", "مساء\u064b"), ("night1", "منتصف الليل"), ("night2", "ليلا\u064b")]
    abbreviated :=
      [("morning1", "فجر\u064bا"), ("morning2", "ص"), ("afternoon1", "ظهر\u064bا"),
       ("afternoon2", "بعد الظهر"), ("evening1", "مساء\u064b"), ("night1", "منتصف الليل"),
       ("night2", "ليلا\u064b")]
    narrow :=
      [("morning1", "فجر\u064bا"), ("morning2", "صباح\u064bا"), ("afternoon1", "ظهر\u064bا"),
       ("afternoon2", "بعد الظهر"), ("evening1", "مساء\u064b"), ("night1", "منتصف الليل"),
       ("night2", "ليلا\u064b")] }

/-- Arabic as written in Egypt. -/
def arEg : LocaleData where
  id := "ar_EG"
  firstWeekday := 5
  minWeekDays := 1
  gmtBefore := "غرينتش"
  gmtAfter := ""
  skeletons :=
    ⟨"HH:mm:ss", "h:mm:ss a", "HH:mm", "h:mm a"⟩
  months := ⟨arEgMonthsFormat, arEgMonthsFormat⟩
  days := ⟨arEgDaysFormat, arEgDaysFormat⟩
  quarters := ⟨arEgQuartersFormat, arEgQuartersFormat⟩
  era := ⟨"ميلادي", "م", "م"⟩
  periods := ⟨arEgPeriodsFormat, arEgPeriodsStandAlone⟩
  periodRules :=
    [("morning1", [.within 10800 21600]), ("morning2", [.within 21600 43200]),
     ("afternoon1", [.within 43200 46800]), ("afternoon2", [.within 46800 64800]),
     ("evening1", [.within 64800 86400]), ("night1", [.within 0 3600]),
     ("night2", [.within 3600 10800])]
  short := ⟨true, "، ", "d\u200f/M\u200f/y", "h:mm a"⟩
  medium := ⟨true, "، ", "dd\u200f/MM\u200f/y", "h:mm:ss a"⟩

end ClockFace.LocaleData
