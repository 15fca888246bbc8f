import ClockFace.Locale.Basic

/-! # Korean as written in South Korea -/

namespace ClockFace.LocaleData

/-- The months inside a date. -/
def koKrMonthsFormat : Widths (List String) :=
  { wide := ["1월", "2월", "3월", "4월", "5월", "6월", "7월", "8월", "9월", "10월", "11월", "12월"]
    abbreviated := ["1월", "2월", "3월", "4월", "5월", "6월", "7월", "8월", "9월", "10월", "11월", "12월"]
    narrow := ["1월", "2월", "3월", "4월", "5월", "6월", "7월", "8월", "9월", "10월", "11월", "12월"] }

/-- The weekdays inside a date. -/
def koKrDaysFormat : DayNames :=
  { wide := ["월요일", "화요일", "수요일", "목요일", "금요일", "토요일", "일요일"]
    abbreviated := ["월", "화", "수", "목", "금", "토", "일"]
    narrow := ["월", "화", "수", "목", "금", "토", "일"]
    short := ["월", "화", "수", "목", "금", "토", "일"] }

/-- The quarters inside a date. -/
def koKrQuartersFormat : Widths (List String) :=
  { wide := ["제 1/4분기", "제 2/4분기", "제 3/4분기", "제 4/4분기"]
    abbreviated := ["1분기", "2분기", "3분기", "4분기"]
    narrow := ["1", "2", "3", "4"] }

/-- The day periods inside a date. -/
def koKrPeriodsFormat : Widths (List (String × String)) :=
  { wide :=
      [("midnight", "자정"), ("am", "오전"), ("noon", "정오"), ("pm", "오후"), ("morning1", "아침"),
       ("morning2", "오전"), ("afternoon1", "오후"), ("evening1", "저녁"), ("night1", "밤")]
    abbreviated :=
      [("am", "AM"), ("pm", "PM"), ("midnight", "자정"), ("noon", "정오"), ("morning1", "아침"),
       ("morning2", "오전"), ("afternoon1", "오후"), ("evening1", "저녁"), ("night1", "밤")]
    narrow :=
      [("midnight", "자정"), ("noon", "정오"), ("morning1", "아침"), ("morning2", "오전"),
       ("afternoon1", "오후"), ("evening1", "저녁"), ("night1", "밤")] }

/-- The day periods standing alone. -/
def koKrPeriodsStandAlone : Widths (List (String × String)) :=
  { wide :=
      [("am", "오전"), ("pm", "오후"), ("morning1", "아침"), ("morning2", "오전"), ("afternoon1", "오후"),
       ("evening1", "저녁"), ("night1", "밤")]
    abbreviated :=
      [("morning1", "아침"), ("morning2", "오전"), ("afternoon1", "오후"), ("evening1", "저녁"),
       ("night1", "밤")]
    narrow :=
      [("morning1", "아침"), ("morning2", "오전"), ("afternoon1", "오후"), ("evening1", "저녁"),
       ("night1", "밤")] }

/-- Korean as written in South Korea. -/
def koKr : LocaleData where
  id := "ko_KR"
  firstWeekday := 6
  minWeekDays := 1
  gmtBefore := "GMT"
  gmtAfter := ""
  skeletons :=
    ⟨"H시 m분 s초", "a h:mm:ss", "HH:mm", "a h:mm"⟩
  months := ⟨koKrMonthsFormat, koKrMonthsFormat⟩
  days := ⟨koKrDaysFormat, koKrDaysFormat⟩
  quarters := ⟨koKrQuartersFormat, koKrQuartersFormat⟩
  era := ⟨"서기", "AD", "AD"⟩
  periods := ⟨koKrPeriodsFormat, koKrPeriodsStandAlone⟩
  periodRules :=
    [("midnight", [.at 0]), ("noon", [.at 43200]), ("morning1", [.within 10800 21600]),
     ("morning2", [.within 21600 43200]), ("afternoon1", [.within 43200 64800]),
     ("evening1", [.within 64800 75600]), ("night1", [.within 75600 10800])]
  short := ⟨true, " ", "yy. M. d.", "a h:mm"⟩
  medium := ⟨true, " ", "y. M. d.", "a h:mm:ss"⟩

end ClockFace.LocaleData
