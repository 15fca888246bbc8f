import ClockFace.Locale.Basic

/-! # Bulgarian as written in Bulgaria -/

namespace ClockFace.LocaleData

/-- The months inside a date. -/
def bgBgMonthsFormat : Widths (List String) :=
  { wide :=
      ["януари", "февруари", "март", "април", "май", "юни", "юли", "август", "септември",
       "октомври", "ноември", "декември"]
    abbreviated :=
      ["яну", "фев", "март", "апр", "май", "юни", "юли", "авг", "сеп", "окт", "ное", "дек"]
    narrow := ["я", "ф", "м", "а", "м", "ю", "ю", "а", "с", "о", "н", "д"] }

/-- The weekdays inside a date. -/
def bgBgDaysFormat : DayNames :=
  { wide := ["понеделник", "вторник", "сряда", "четвъртък", "петък", "събота", "неделя"]
    abbreviated := ["пн", "вт", "ср", "чт", "пт", "сб", "нд"]
    narrow := ["п", "в", "с", "ч", "п", "с", "н"]
    short := ["пн", "вт", "ср", "чт", "пт", "сб", "нд"] }

/-- The quarters inside a date. -/
def bgBgQuartersFormat : Widths (List String) :=
  { wide := ["1. тримесечие", "2. тримесечие", "3. тримесечие", "4. тримесечие"]
    abbreviated := ["1. трим.", "2. трим.", "3. трим.", "4. трим."]
    narrow := ["1", "2", "3", "4"] }

/-- The day periods inside a date. -/
def bgBgPeriodsFormat : Widths (List (String × String)) :=
  { wide := [("am", "пр.об."), ("pm", "сл.об.")]
    abbreviated :=
      [("am", "am"), ("pm", "pm"), ("midnight", "полунощ"), ("morning1", "сутринта"),
       ("morning2", "на обяд"), ("afternoon1", "следобед"), ("evening1", "вечерта"),
       ("night1", "през нощта")]
    narrow := [] }

/-- The day periods standing alone. -/
def bgBgPeriodsStandAlone : Widths (List (String × String)) :=
  { wide := []
    abbreviated := []
    narrow := [] }

/-- Bulgarian as written in Bulgaria. -/
def bgBg : LocaleData where
  id := "bg_BG"
  firstWeekday := 0
  minWeekDays := 4
  gmtBefore := "Гринуич"
  gmtAfter := ""
  skeletons :=
    ⟨"HH:mm:ss 'ч'.", "h:mm:ss 'ч'. a", "HH:mm 'ч'.", "h:mm 'ч'. a"⟩
  months := ⟨bgBgMonthsFormat, bgBgMonthsFormat⟩
  days := ⟨bgBgDaysFormat, bgBgDaysFormat⟩
  quarters := ⟨bgBgQuartersFormat, bgBgQuartersFormat⟩
  era := ⟨"след Христа", "сл.Хр.", "сл.Хр."⟩
  periods := ⟨bgBgPeriodsFormat, bgBgPeriodsStandAlone⟩
  periodRules :=
    [("midnight", [.at 0]), ("morning1", [.within 14400 39600]),
     ("morning2", [.within 39600 50400]), ("afternoon1", [.within 50400 64800]),
     ("evening1", [.within 64800 79200]), ("night1", [.within 79200 14400])]
  short := ⟨true, ", ", "d.MM.yy\u202f'г'.", "H:mm"⟩
  medium := ⟨true, ", ", "d.MM.y\u202f'г'.", "H:mm:ss"⟩

end ClockFace.LocaleData
