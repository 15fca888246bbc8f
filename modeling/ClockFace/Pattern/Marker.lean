import ClockFace.Text.Blank

/-! # Marking the AM/PM run

So that the AM/PM run of a time can be found again once the time is written, its field is put between
two reserved characters, which a pattern passes through as text. The blanks before the field belong
to the run. -/

namespace ClockFace.Marker

/-- The character before a marked run. -/
def opening : Char := '\uEF00'

/-- The character after a marked run. -/
def closing : Char := '\uEF01'

/-- The letter of the AM/PM field. -/
def amPmLetter : Char := 'a'

/-- The offset of the first AM/PM letter outside quotes. Every apostrophe opens or closes a
quotation, also the second of two in a row. -/
def findIn (quoted : Bool) : List Char → Option Nat
  | [] => none
  | c :: rest =>
    let quoted := if c = '\'' then !quoted else quoted
    if !quoted && c = amPmLetter then some 0
    else (findIn quoted rest).map (· + 1)

/-- The offset of the first AM/PM letter of a pattern outside quotes. -/
def find? (pattern : List Char) : Option Nat :=
  findIn false pattern

/-- The pattern with its first AM/PM field and the blanks before it marked. Of a repeated letter,
only the first is marked. A pattern without the field stays as it is. -/
def inject (pattern : List Char) : List Char :=
  match find? pattern with
  | none => pattern
  | some i =>
    let before := Text.trimEnd (pattern.take i)
    let blanks := (pattern.take i).drop before.length
    before ++ opening :: blanks ++ amPmLetter :: closing :: pattern.drop (i + 1)

end ClockFace.Marker
