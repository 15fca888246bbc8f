import ClockFace.Locale.Basic

/-! # French as written in Canada -/

namespace ClockFace.LocaleData

/-- The months inside a date. -/
def frCaMonthsFormat : Widths (List String) :=
  { wide :=
      ["janvier", "février", "mars", "avril", "mai", "juin", "juillet", "août", "septembre",
       "octobre", "novembre", "décembre"]
    abbreviated :=
      ["janv.", "févr.", "mars", "avr.", "mai", "juin", "juill.", "août", "sept.", "oct.", "nov.",
       "déc."]
    narrow := ["J", "F", "M", "A", "M", "J", "J", "A", "S", "O", "N", "D"] }

/-- The weekdays inside a date. -/
def frCaDaysFormat : DayNames :=
  { wide := ["lundi", "mardi", "mercredi", "jeudi", "vendredi", "samedi", "dimanche"]
    abbreviated := ["lun.", "mar.", "mer.", "jeu.", "ven.", "sam.", "dim."]
    narrow := ["L", "M", "M", "J", "V", "S", "D"]
    short := ["lu", "ma", "me", "je", "ve", "sa", "di"] }

/-- The quarters inside a date. -/
def frCaQuartersFormat : Widths (List String) :=
  { wide := ["1er trimestre", "2e trimestre", "3e trimestre", "4e trimestre"]
    abbreviated := ["T1", "T2", "T3", "T4"]
    narrow := ["1", "2", "3", "4"] }

/-- The day periods inside a date. -/
def frCaPeriodsFormat : Widths (List (String × String)) :=
  { wide :=
      [("midnight", "minuit"), ("noon", "midi"), ("morning1", "du matin"),
       ("afternoon1", "de l’après-midi"), ("evening1", "du soir"), ("night1", "du matin")]
    abbreviated :=
      [("am", "a.m."), ("pm", "p.m."), ("midnight", "minuit"), ("noon", "midi"),
       ("morning1", "du mat."), ("afternoon1", "après-midi"), ("evening1", "du soir"),
       ("night1", "du mat.")]
    narrow :=
      [("midnight", "minuit"), ("noon", "midi"), ("morning1", "mat."),
       ("afternoon1", "après-midi"), ("evening1", "du soir"), ("night1", "mat."), ("am", "a"),
       ("pm", "p")] }

/-- The day periods standing alone. -/
def frCaPeriodsStandAlone : Widths (List (String × String)) :=
  { wide :=
      [("morning1", "matin"), ("afternoon1", "après-midi"), ("evening1", "soir"),
       ("night1", "matin")]
    abbreviated :=
      [("morning1", "mat."), ("afternoon1", "après-midi"), ("evening1", "du soir"),
       ("night1", "du mat.")]
    narrow :=
      [("morning1", "mat."), ("afternoon1", "après-midi"), ("evening1", "du soir"),
       ("night1", "mat.")] }

/-- French as written in Canada. -/
def frCa : LocaleData where
  id := "fr_CA"
  firstWeekday := 6
  minWeekDays := 1
  gmtBefore := "UTC"
  gmtAfter := ""
  skeletons :=
    ⟨"HH 'h' mm 'min' ss 's'", "h 'h' mm 'min' ss 's' a", "HH 'h' mm", "h 'h' mm\u202fa"⟩
  months := ⟨frCaMonthsFormat, frCaMonthsFormat⟩
  days := ⟨frCaDaysFormat, frCaDaysFormat⟩
  quarters := ⟨frCaQuartersFormat, frCaQuartersFormat⟩
  era := ⟨"après Jésus-Christ", "ap. J.-C.", "ap. J.-C."⟩
  periods := ⟨frCaPeriodsFormat, frCaPeriodsStandAlone⟩
  periodRules :=
    [("midnight", [.at 0]), ("noon", [.at 43200]), ("morning1", [.within 14400 43200]),
     ("afternoon1", [.within 43200 64800]), ("evening1", [.within 64800 86400]),
     ("night1", [.within 0 14400])]
  short := ⟨true, " ", "y-MM-dd", "HH 'h' mm"⟩
  medium := ⟨true, ", ", "d MMM y", "HH 'h' mm 'min' ss 's'"⟩

end ClockFace.LocaleData
