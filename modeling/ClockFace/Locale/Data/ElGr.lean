import ClockFace.Locale.Basic

/-! # Greek as written in Greece -/

namespace ClockFace.LocaleData

/-- The months inside a date. -/
def elGrMonthsFormat : Widths (List String) :=
  { wide :=
      ["Ιανουαρίου", "Φεβρουαρίου", "Μαρτίου", "Απριλίου", "Μαΐου", "Ιουνίου", "Ιουλίου",
       "Αυγούστου", "Σεπτεμβρίου", "Οκτωβρίου", "Νοεμβρίου", "Δεκεμβρίου"]
    abbreviated :=
      ["Ιαν", "Φεβ", "Μαρ", "Απρ", "Μαΐ", "Ιουν", "Ιουλ", "Αυγ", "Σεπ", "Οκτ", "Νοε", "Δεκ"]
    narrow := ["Ι", "Φ", "Μ", "Α", "Μ", "Ι", "Ι", "Α", "Σ", "Ο", "Ν", "Δ"] }

/-- The months standing alone. -/
def elGrMonthsStandAlone : Widths (List String) :=
  { wide :=
      ["Ιανουάριος", "Φεβρουάριος", "Μάρτιος", "Απρίλιος", "Μάιος", "Ιούνιος", "Ιούλιος",
       "Αύγουστος", "Σεπτέμβριος", "Οκτώβριος", "Νοέμβριος", "Δεκέμβριος"]
    abbreviated :=
      ["Ιαν", "Φεβ", "Μάρ", "Απρ", "Μάι", "Ιούν", "Ιούλ", "Αύγ", "Σεπ", "Οκτ", "Νοέ", "Δεκ"]
    narrow := ["Ι", "Φ", "Μ", "Α", "Μ", "Ι", "Ι", "Α", "Σ", "Ο", "Ν", "Δ"] }

/-- The weekdays inside a date. -/
def elGrDaysFormat : DayNames :=
  { wide := ["Δευτέρα", "Τρίτη", "Τετάρτη", "Πέμπτη", "Παρασκευή", "Σάββατο", "Κυριακή"]
    abbreviated := ["Δευ", "Τρί", "Τετ", "Πέμ", "Παρ", "Σάβ", "Κυρ"]
    narrow := ["Δ", "Τ", "Τ", "Π", "Π", "Σ", "Κ"]
    short := ["Δε", "Τρ", "Τε", "Πέ", "Πα", "Σά", "Κυ"] }

/-- The quarters inside a date. -/
def elGrQuartersFormat : Widths (List String) :=
  { wide := ["1ο τρίμηνο", "2ο τρίμηνο", "3ο τρίμηνο", "4ο τρίμηνο"]
    abbreviated := ["Τ1", "Τ2", "Τ3", "Τ4"]
    narrow := ["1", "2", "3", "4"] }

/-- The day periods inside a date. -/
def elGrPeriodsFormat : Widths (List (String × String)) :=
  { wide :=
      [("morning1", "το πρωί"), ("afternoon1", "το μεσημέρι"), ("evening1", "το απόγευμα"),
       ("night1", "το βράδυ")]
    abbreviated :=
      [("am", "π.μ."), ("pm", "μ.μ."), ("morning1", "πρωί"), ("afternoon1", "μεσημ."),
       ("evening1", "απόγ."), ("night1", "βράδυ")]
    narrow := [("am", "πμ"), ("pm", "μμ")] }

/-- The day periods standing alone. -/
def elGrPeriodsStandAlone : Widths (List (String × String)) :=
  { wide :=
      [("morning1", "πρωί"), ("afternoon1", "μεσημέρι"), ("evening1", "απόγευμα"),
       ("night1", "βράδυ")]
    abbreviated := []
    narrow := [("am", "πμ"), ("pm", "μμ")] }

/-- Greek as written in Greece. -/
def elGr : LocaleData where
  id := "el_GR"
  firstWeekday := 0
  minWeekDays := 4
  gmtBefore := "GMT"
  gmtAfter := ""
  skeletons :=
    ⟨"HH:mm:ss", "h:mm:ss\u202fa", "HH:mm", "h:mm\u202fa"⟩
  months := ⟨elGrMonthsFormat, elGrMonthsStandAlone⟩
  days := ⟨elGrDaysFormat, elGrDaysFormat⟩
  quarters := ⟨elGrQuartersFormat, elGrQuartersFormat⟩
  era := ⟨"μετά Χριστόν", "μ.Χ.", "μ.Χ."⟩
  periods := ⟨elGrPeriodsFormat, elGrPeriodsStandAlone⟩
  periodRules :=
    [("morning1", [.within 14400 43200]), ("afternoon1", [.within 43200 61200]),
     ("evening1", [.within 61200 72000]), ("night1", [.within 72000 14400])]
  short := ⟨true, ", ", "d/M/yy", "h:mm\u202fa"⟩
  medium := ⟨true, ", ", "d MMM y", "h:mm:ss\u202fa"⟩

end ClockFace.LocaleData
