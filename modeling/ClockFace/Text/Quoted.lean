import ClockFace.Text.Visible

/-! # Quoted texts

How messages show a text: between quotes, with everything that could be misread escaped. Single
quotes are used unless the text holds a single quote and no double quote. -/

namespace ClockFace.Text

/-- The lower-case hexadecimal digits of `n`, filled with zeros up to `width`. -/
def hexPadded (width n : Nat) : List Char :=
  (Nat.toDigits 16 n).leftpad width '0'

/-- A character inside quotes of the given kind. -/
def escapeChar (quote c : Char) : List Char :=
  if c = quote || c = '\\' then ['\\', c]
  else if c = '\n' then ['\\', 'n']
  else if c = '\r' then ['\\', 'r']
  else if c = '\t' then ['\\', 't']
  else if isVisible c then [c]
  else if c.toNat < 0x100 then ['\\', 'x'] ++ hexPadded 2 c.toNat
  else if c.toNat < 0x10000 then ['\\', 'u'] ++ hexPadded 4 c.toNat
  else ['\\', 'U'] ++ hexPadded 8 c.toNat

/-- The quote that a text is shown between. -/
def quoteFor (s : List Char) : Char :=
  if s.contains '\'' && !s.contains '"' then '"' else '\''

/-- The text between quotes. -/
def quoted (s : List Char) : List Char :=
  let quote := quoteFor s
  quote :: s.flatMap (escapeChar quote) ++ [quote]

end ClockFace.Text

namespace ClockFace

/-- A string between quotes, as messages show it. -/
def quotedString (s : String) : String :=
  String.ofList (Text.quoted s.toList)

end ClockFace
