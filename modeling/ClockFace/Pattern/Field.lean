import ClockFace.Locale.Resolve
import ClockFace.Number.Double
import ClockFace.Pattern.Offset
import ClockFace.Pattern.Token
import ClockFace.Time.Instant
import ClockFace.Time.Week

/-! # Fields

What each field of a pattern writes for an instant in a locale. The letter says what is written, and
the length how: the number of digits, or which width of a name. -/

namespace ClockFace.Field

open Number

/-- The lengths that the field of a letter can have. -/
def isAllowed (letter : Char) (length : Nat) : Bool :=
  match letter with
  | 'G' | 'Q' | 'q' | 'M' | 'L' | 'Z' | 'x' | 'X' | 'a' | 'b' | 'B' => length ≤ 5
  | 'E' | 'e' => length ≤ 6
  | 'c' => length ≤ 6 && length != 2
  | 'w' | 'd' | 'h' | 'H' | 'K' | 'k' | 'm' | 's' => length ≤ 2
  | 'D' => length ≤ 3
  | 'W' | 'F' => length == 1
  | 'z' | 'V' => length ≤ 4
  | 'O' | 'v' => length == 1 || length == 4
  | _ => true

/-- A number filled with zeros up to a length. -/
def number (length : Nat) (n : Int) : List Char :=
  Text.padded length n.toNat

/-- The last two characters of a text. -/
def lastTwo (s : List Char) : List Char :=
  s.drop (s.length - 2)

/-- A year; a length of two cuts it to its last two digits. -/
def year (length : Nat) (n : Int) : List Char :=
  if length = 2 then lastTwo (number length n) else number length n

/-- The name that a length selects: four the wide one, five the narrow one, else the abbreviated
one. -/
def ofWidth {α : Type} (length : Nat) (w : Widths α) : α :=
  if length = 4 then w.wide else if length = 5 then w.narrow else w.abbreviated

/-- The name at a place of a list of names. -/
def nameAt (names : List String) (place : Int) : List Char :=
  (names.getD place.toNat "").toList

/-- The name of a weekday, for which a length of six selects the short one. -/
def weekdayName (length : Nat) (names : DayNames) (weekday : Int) : List Char :=
  nameAt (if length = 6 then names.short else ofWidth length names.toWidths) weekday

/-- The day period of a second of the day: a rule for that very second comes first, then the first
rule whose span holds it, then the half of the day. -/
def periodAt (rules : List (String × List PeriodRule)) (second : Nat) : String :=
  let holds : PeriodRule → Bool
    | .at s => s == second
    | .within _ _ => false
  let spans : PeriodRule → Bool
    | .at _ => false
    | .within start stop =>
      if start < stop then start ≤ second && second < stop else start ≤ second || second < stop
  match rules.find? (·.2.any holds), rules.find? (·.2.any spans) with
  | some (id, _), _ => id
  | none, some (id, _) => id
  | none, none => if second < 43200 then "am" else "pm"

/-- The name of a day period in the first width that has one: the asked one, then from wide to
abbreviated. -/
def periodName? (length : Nat) (names : Widths (List (String × String))) (id : String) :
    Option String :=
  [ofWidth length names, names.wide, names.narrow, names.abbreviated].findSome? (·.lookup id)

/-- The name of a day period, which the locale must have. -/
def period (locale : Locale) (length : Nat) (names : Widths (List (String × String)))
    (id : String) : Except Failure (List Char) :=
  match periodName? length names id with
  | some name => .ok name.toList
  | none => .error (.unnamedPeriod id locale.id)

/-- The digits of the fraction of a second. The fraction, a number of double precision, is rounded
to so many places and moved before the point in double precision; what is left after the point is
cut. -/
def fraction (length : Nat) (micros : Int) : Except Failure (List Char) :=
  let places : Rat := (10 : Rat) ^ length
  -- Each of the three steps is rounded on its own.
  let value := (nearestDouble? (micros / secondMicros)).getD 0
  let rounded := (nearestDouble? (roundHalfEven (value * places) / places)).getD 0
  match nearestDouble? places with
  | none => .error .doubleRange
  | some factor => .ok (number length (truncate ((nearestDouble? (rounded * factor)).getD 0)))

/-- How the locale counts weeks. -/
def weekRule (data : LocaleData) : WeekRule :=
  ⟨data.firstWeekday, data.minWeekDays⟩

/-- The weekday counted from the locale's first one, which is 1. -/
def localWeekday (data : LocaleData) (weekday : Int) : Int :=
  (7 - data.firstWeekday + weekday) % 7 + 1

/-- An offset field. -/
def offset (letter : Char) (length : Nat) (data : LocaleData) (seconds : Int) : List Char :=
  match letter with
  | 'O' => if length = 4 then OffsetForm.long.write false data seconds else "None".toList
  | 'Z' =>
    if length = 5 then OffsetForm.extended.write true data seconds
    else if length = 4 then OffsetForm.long.write false data seconds
    else OffsetForm.basic.write false data seconds
  | 'x' | 'X' =>
    let form : OffsetForm :=
      if length = 1 then .short else if length = 2 || length = 4 then .basic else .extended
    form.write (letter = 'X') data seconds
  | _ => OffsetForm.long.write false data seconds

/-- Fields of the date. -/
def ofDate (letter : Char) (length : Nat) (locale : Locale) (date : Date) :
    Except Failure (List Char) := do
  let data := locale.data
  let quarter := (date.month - 1) / 3 + 1
  match letter with
  | 'G' => return (ofWidth length data.era).toList
  | 'y' | 'u' => return year length date.year
  | 'Y' => return year length (← (weekRule data).weekYear date)
  | 'Q' =>
    return if length ≤ 2 then number length quarter
      else nameAt (ofWidth length data.quarters.format) (quarter - 1)
  | 'q' =>
    return if length ≤ 2 then number length quarter
      else nameAt (ofWidth length data.quarters.standAlone) (quarter - 1)
  | 'M' =>
    return if length ≤ 2 then number length date.month
      else nameAt (ofWidth length data.months.format) (date.month - 1)
  | 'L' =>
    return if length ≤ 2 then number length date.month
      else nameAt (ofWidth length data.months.standAlone) (date.month - 1)
  | 'w' => return number length (← (weekRule data).weekOfYear date)
  | 'W' => return number 1 ((weekRule data).weekOfMonth date)
  | 'd' => return number length date.day
  | 'D' => return number length date.dayOfYear
  | 'F' => return number 1 ((date.day - 1) / 7 + 1)
  | 'E' => return weekdayName length data.days.format date.weekday
  | 'e' =>
    return if length < 3 then number length (localWeekday data date.weekday)
      else weekdayName length data.days.format date.weekday
  | 'c' =>
    return if length < 3 then number length (localWeekday data date.weekday)
      else weekdayName length data.days.standAlone date.weekday
  | _ => throw (.unwritableField letter)

/-- Fields of the time of day. -/
def ofTime (letter : Char) (length : Nat) (locale : Locale) (instant : Instant) :
    Except Failure (List Char) := do
  let data := locale.data
  let hour := instant.hour
  let periodId := periodAt data.periodRules instant.secondOfDay.toNat
  match letter with
  | 'a' => period locale length data.periods.format (if hour < 12 then "am" else "pm")
  | 'b' => period locale length data.periods.standAlone periodId
  | 'B' => period locale length data.periods.format periodId
  | 'h' => return number length ((hour + 11) % 12 + 1)
  | 'H' => return number length hour
  | 'K' => return number length (hour % 12)
  | 'k' => return number length ((hour + 23) % 24 + 1)
  | 'm' => return number length instant.minute
  | 's' => return number length instant.second
  | 'S' => fraction length instant.micros
  | 'A' => return number length (instant.secondOfDay * 1000 + instant.micros / 1000)
  | _ => throw (.unwritableField letter)

/-- The letter belongs to the date. -/
def isOfDate (letter : Char) : Bool :=
  "GyuYQqMLwWdDFEec".toList.contains letter

/-- The letter belongs to the zone. Zone names are not held, so `z`, `v` and `V` write the long form
of the offset. -/
def isOfZone (letter : Char) : Bool :=
  "zZOvVxX".toList.contains letter

/-- What a field writes for an instant in a locale. -/
def write (letter : Char) (length : Nat) (locale : Locale) (instant : Instant) :
    Except Failure (List Char) :=
  if isOfDate letter then ofDate letter length locale instant.date
  else if isOfZone letter then
    .ok (offset letter length locale.data (instant.offset?.getD 0))
  else ofTime letter length locale instant

end ClockFace.Field
