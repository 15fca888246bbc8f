import ClockFace.Failure
import ClockFace.Text.Blank
import ClockFace.Text.Case
import ClockFace.Text.Digit
import ClockFace.Text.Letter
import ClockFace.Text.Split

/-! # Locale tags

A tag names a language and, after underscores, optionally a script, a territory and a variant; a
character set after a point is ignored and a modifier after an `@` is kept. `LocaleTag.parse` reads
a tag, and `LocaleTag.id` writes the normal form of one. -/

namespace ClockFace

/-- The parts of a locale tag. -/
structure LocaleTag where
  language : String
  script : Option String := none
  territory : Option String := none
  variant : Option String := none
  modifier : Option String := none
  deriving DecidableEq, Repr

namespace LocaleTag

/-- The tag in its normal form, without the modifier. -/
def baseId (t : LocaleTag) : String :=
  "_".intercalate (t.language :: [t.script, t.territory, t.variant].filterMap id)

/-- The tag in its normal form. -/
def id (t : LocaleTag) : String :=
  match t.modifier with
  | none => t.baseId
  | some m => t.baseId ++ "@" ++ m

/-- A script is four letters. -/
def isScript (part : List Char) : Bool :=
  part.length == 4 && part.all Text.isLetter

/-- Take a script from the front of the parts. -/
def takeScript : List (List Char) → Option String × List (List Char)
  | part :: rest =>
    if isScript part then (some (String.ofList (Text.capitalised part)), rest)
    else (none, part :: rest)
  | [] => (none, [])

/-- Take a territory, two letters or three digits, from the front of the parts. -/
def takeTerritory : List (List Char) → Option String × List (List Char)
  | part :: rest =>
    if part.length = 2 && part.all Text.isLetter then
      (some (String.ofList (Text.upper part)), rest)
    else if part.length = 3 && part.all Text.isDigit then (some (String.ofList part), rest)
    else (none, part :: rest)
  | [] => (none, [])

/-- A part that announces a variant: four characters with a digit first, or five and more with a
letter first. -/
def announcesVariant (part : List Char) : Bool :=
  match part with
  | [] => false
  | c :: _ => (part.length == 4 && Text.isDigit c) || (5 ≤ part.length && Text.isLetter c)

/-- Take a variant from the end of the parts, if the first of them announces one. -/
def takeVariant (parts : List (List Char)) : Option String × List (List Char) :=
  match parts.head?, parts.getLast? with
  | some first, some last =>
    if announcesVariant first then (some (String.ofList (Text.upper last)), parts.dropLast)
    else (none, parts)
  | _, _ => (none, parts)

/-- Read a tag. -/
def parse (tag : String) : Except Failure LocaleTag :=
  if tag.isEmpty then .error .emptyTag
  else
    let (before, modifier) := Text.cut '@' tag.toList
    -- What follows the point names a character set.
    let (identifier, _) := Text.cut '.' before
    match Text.split '_' identifier with
    | [] => .error .emptyTag
    | first :: parts =>
      let language := Text.lower first
      if language.isEmpty || !language.all Text.isLetter then
        .error (.languageLetters (String.ofList language))
      else
        let (script, parts) := takeScript parts
        let (territory, parts) := takeTerritory parts
        let (variant, parts) := takeVariant parts
        if parts.isEmpty then
          .ok { language := String.ofList language, script, territory, variant
                modifier := if modifier.isEmpty then none else some (String.ofList modifier) }
        else .error (.malformedTag (String.ofList identifier))

end LocaleTag

end ClockFace
