import ClockFace.Locale.Basic

/-! # Turkish as written in Turkey -/

namespace ClockFace.LocaleData

/-- The months inside a date. -/
def trTrMonthsFormat : Widths (List String) :=
  { wide :=
      ["Ocak", "Şubat", "Mart", "Nisan", "Mayıs", "Haziran", "Temmuz", "Ağustos", "Eylül", "Ekim",
       "Kasım", "Aralık"]
    abbreviated :=
      ["Oca", "Şub", "Mar", "Nis", "May", "Haz", "Tem", "Ağu", "Eyl", "Eki", "Kas", "Ara"]
    narrow := ["O", "Ş", "M", "N", "M", "H", "T", "A", "E", "E", "K", "A"] }

/-- The weekdays inside a date. -/
def trTrDaysFormat : DayNames :=
  { wide := ["Pazartesi", "Salı", "Çarşamba", "Perşembe", "Cuma", "Cumartesi", "Pazar"]
    abbreviated := ["Pzt", "Sal", "Çar", "Per", "Cum", "Cmt", "Paz"]
    narrow := ["P", "S", "Ç", "P", "C", "C", "P"]
    short := ["Pt", "Sa", "Ça", "Pe", "Cu", "Ct", "Pa"] }

/-- The quarters inside a date. -/
def trTrQuartersFormat : Widths (List String) :=
  { wide := ["1. çeyrek", "2. çeyrek", "3. çeyrek", "4. çeyrek"]
    abbreviated := ["Ç1", "Ç2", "Ç3", "Ç4"]
    narrow := ["1.", "2.", "3.", "4."] }

/-- The day periods inside a date. -/
def trTrPeriodsFormat : Widths (List (String × String)) :=
  { wide := []
    abbreviated :=
      [("am", "ÖÖ"), ("pm", "ÖS"), ("midnight", "gece yarısı"), ("noon", "öğle"),
       ("morning1", "sabah"), ("morning2", "öğleden önce"), ("afternoon1", "öğleden sonra"),
       ("afternoon2", "akşamüstü"), ("evening1", "akşam"), ("night1", "gece")]
    narrow :=
      [("midnight", "gece"), ("am", "öö"), ("noon", "ö"), ("pm", "ös"), ("morning1", "sabah"),
       ("morning2", "öğleden önce"), ("afternoon1", "öğleden sonra"), ("afternoon2", "akşamüstü"),
       ("evening1", "akşam"), ("night1", "gece")] }

/-- The day periods standing alone. -/
def trTrPeriodsStandAlone : Widths (List (String × String)) :=
  { wide := []
    abbreviated := []
    narrow := [] }

/-- Turkish as written in Turkey. -/
def trTr : LocaleData where
  id := "tr_TR"
  firstWeekday := 0
  minWeekDays := 1
  gmtBefore := "GMT"
  gmtAfter := ""
  skeletons :=
    ⟨"HH:mm:ss", "a\u202fh:mm:ss", "HH:mm", "a\u202fh:mm"⟩
  months := ⟨trTrMonthsFormat, trTrMonthsFormat⟩
  days := ⟨trTrDaysFormat, trTrDaysFormat⟩
  quarters := ⟨trTrQuartersFormat, trTrQuartersFormat⟩
  era := ⟨"Milattan Sonra", "MS", "MS"⟩
  periods := ⟨trTrPeriodsFormat, trTrPeriodsStandAlone⟩
  periodRules :=
    [("midnight", [.at 0]), ("noon", [.at 43200]), ("morning1", [.within 21600 39600]),
     ("morning2", [.within 39600 43200]), ("afternoon1", [.within 43200 64800]),
     ("afternoon2", [.within 64800 68400]), ("evening1", [.within 68400 75600]),
     ("night1", [.within 75600 21600])]
  short := ⟨true, " ", "d.MM.y", "HH:mm"⟩
  medium := ⟨true, " ", "d MMM y", "HH:mm:ss"⟩

end ClockFace.LocaleData
