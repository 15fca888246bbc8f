import ClockFace.Styled.Basic

/-! # Markup

A styled text written as one text, with tags in brackets where styles begin and end. In the text
between tags, what would read as a tag is escaped with backslashes. -/

namespace ClockFace.Markup

/-- A character that a tag may begin with. -/
def isTagStart (c : Char) : Bool :=
  ('a' ≤ c && c ≤ 'z') || c == '#' || c == '/' || c == '@'

/-- The text goes on as a tag does after its opening bracket: with a character that tags begin with,
and with a closing bracket before any other opening one. -/
def isTagBody : List Char → Bool
  | [] => false
  | c :: rest => isTagStart c && (rest.find? fun d => d == '[' || d == ']') == some ']'

/-- The text with its tags escaped; `slashes` is the number of backslashes just before the text. -/
def escapeTags (slashes : Nat) : List Char → List Char
  | [] => []
  | c :: rest =>
    if c = '\\' then c :: escapeTags (slashes + 1) rest
    else if c = '[' && isTagBody rest then
      List.replicate (slashes + 1) '\\' ++ c :: escapeTags 0 rest
    else c :: escapeTags 0 rest

/-- The text with its tags escaped, and a single backslash at its end doubled. -/
def escape (s : List Char) : List Char :=
  let escaped := escapeTags 0 s
  match escaped.reverse with
  | '\\' :: '\\' :: _ => escaped
  | '\\' :: _ => escaped ++ ['\\']
  | _ => escaped

/-- A place where a style begins or ends. -/
structure Tag where
  offset : Nat
  closing : Bool
  style : String
  deriving DecidableEq, Repr

namespace Tag

/-- Tags are written by offset, and at one offset those that open before those that close. -/
def le (a b : Tag) : Bool :=
  a.offset < b.offset || (a.offset == b.offset && (!a.closing || b.closing))

/-- A tag as it is written; no style is written as nothing. -/
def toText (t : Tag) : List Char :=
  if t.style.isEmpty then []
  else (if t.closing then ['[', '/'] else ['[']) ++ t.style.toList ++ [']']

end Tag

/-- The tags of a styled text in the order of writing. -/
def tags (t : StyledText) : List Tag :=
  let opened : List Tag := t.runs.map fun r => ⟨r.start, false, r.style⟩
  let closed : List Tag := t.runs.map fun r => ⟨r.stop, true, r.style⟩
  -- Before sorting, the base style surrounds all others.
  let whole : List Tag :=
    ⟨0, false, t.base⟩ :: (opened ++ closed ++ [⟨t.plain.length, true, t.base⟩])
  whole.mergeSort Tag.le

/-- The text with tags in it, from the offset `position` on. -/
def weave (plain : List Char) (position : Nat) : List Tag → List Char
  | [] => []
  | t :: rest =>
    let piece := if position < t.offset then escape ((plain.take t.offset).drop position) else []
    piece ++ t.toText ++ weave plain (max position t.offset) rest

/-- The markup of a styled text. -/
def write (t : StyledText) : List Char :=
  weave t.plain 0 (tags t)

end ClockFace.Markup
