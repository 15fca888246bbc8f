import ClockFace.Text.Blank

/-! # Environment files

A file of assignments, one a line: a name, an equals sign and a value, which may stand between quotes
and then run over several lines. A `#` begins a comment. An assignment that is not understood is
skipped with the rest of its line.

`Binding.ofFile` reads the assignments of a file, and `Binding.toLine` writes one with its value
between single quotes. -/

namespace ClockFace

/-- A name and its value, if it has one. -/
structure Binding where
  name : List Char
  value : Option (List Char)
  deriving DecidableEq, Repr

namespace Binding

/-- A blank that does not end the line. -/
def isInnerBlank (c : Char) : Bool :=
  Text.isBlank c && c != '\n' && c != '\r'

/-- The text after its inner blanks. -/
def skipBlanks (s : List Char) : List Char :=
  s.dropWhile isInnerBlank

/-- The text after the end of its first line. -/
def nextLine (s : List Char) : List Char :=
  (s.dropWhile (· != '\n')).tail

/-- A part of an assignment and the text after it, or the text from which it was not understood. -/
abbrev Reading (α : Type) := Except (List Char) (α × List Char)

/-- The word that may stand before a name. -/
def exportWord : List Char := "export".toList

/-- The text after the word that may stand before a name and the blanks that must follow it. -/
def skipExport (s : List Char) : List Char :=
  if exportWord.isPrefixOf s then
    let rest := s.drop exportWord.length
    if (rest.head?.map isInnerBlank).getD false then skipBlanks rest else s
  else s

/-- A character of a name that stands without quotes. -/
def isNameChar (c : Char) : Bool :=
  c != '=' && c != '#' && !Text.isBlank c

/-- The name of an assignment; a comment has none. -/
def readName (s : List Char) : Reading (Option (List Char)) :=
  match s with
  | '#' :: _ => .ok (none, s)
  | '\'' :: rest =>
    let name := rest.takeWhile (· != '\'')
    match rest.drop name.length with
    | _ :: after => if name.isEmpty then .error s else .ok (some name, after)
    | [] => .error s
  | _ =>
    let name := s.takeWhile isNameChar
    if name.isEmpty then .error s else .ok (some name, s.drop name.length)

/-- The text up to the quote that ends it and the text after that quote; a backslash takes the
character after it along. -/
def upToQuote (quote : Char) : List Char → Option (List Char × List Char)
  | [] => none
  | '\\' :: c :: rest => (upToQuote quote rest).map fun (said, after) => ('\\' :: c :: said, after)
  | c :: rest =>
    if c = quote then some ([], rest)
    else (upToQuote quote rest).map fun (said, after) => (c :: said, after)

/-- What a backslash and a character mean between single quotes. -/
def singleEscape? (c : Char) : Option Char :=
  if c = '\\' || c = '\'' then some c else none

/-- What a backslash and a character mean between double quotes. -/
def doubleEscape? (c : Char) : Option Char :=
  match c with
  | '\\' | '\'' | '"' => some c
  | 'a' => some '\x07'
  | 'b' => some '\x08'
  | 'f' => some '\x0C'
  | 'n' => some '\n'
  | 'r' => some '\r'
  | 't' => some '\t'
  | 'v' => some '\x0B'
  | _ => none

/-- The text with its escapes replaced by what they mean; a backslash without meaning stays. -/
def unescape (meaning : Char → Option Char) : List Char → List Char
  | [] => []
  | [c] => [c]
  | c :: d :: rest =>
    match if c = '\\' then meaning d else none with
    | some m => m :: unescape meaning rest
    | none => c :: unescape meaning (d :: rest)

/-- The line without the first blanks that a `#` follows and all that comes after them. -/
def cutComment : List Char → List Char
  | [] => []
  | c :: rest =>
    if Text.isBlank c && (rest.dropWhile Text.isBlank).head? = some '#' then []
    else c :: cutComment rest

/-- A value between quotes. -/
def readQuoted (quote : Char) (meaning : Char → Option Char) (s : List Char) : Reading (List Char) :=
  match upToQuote quote s.tail with
  | some (said, after) => .ok (unescape meaning said, after)
  | none => .error s

/-- The value after an equals sign. -/
def readValue (s : List Char) : Reading (List Char) :=
  let blanks := s.takeWhile isInnerBlank
  let s := skipBlanks s
  match s with
  | '\'' :: _ => readQuoted '\'' singleEscape? s
  | '"' :: _ => readQuoted '"' doubleEscape? s
  | _ =>
    -- Only blanks before it make a `#` at the start of the value a comment.
    if !blanks.isEmpty && s.head? = some '#' then .ok ([], s)
    else
      let line := s.takeWhile (· != '\n')
      .ok (Text.trimEnd (cutComment line), s.drop line.length)

/-- The text after a comment, if there is one. -/
def skipComment (s : List Char) : List Char :=
  match skipBlanks s with
  | '#' :: rest => rest.dropWhile (· != '\n')
  | _ => s

/-- The text after the end of the line, which only blanks may stand before. -/
def readLineEnd (s : List Char) : Reading Unit :=
  match skipBlanks s with
  | [] => .ok ((), [])
  | '\n' :: rest => .ok ((), rest)
  | _ => .error s

/-- One assignment, from the first character that is not blank. -/
def read (s : List Char) : Except (List Char) (Option Binding × List Char) := do
  let (name, s) ← readName (skipExport s)
  let s := skipBlanks s
  let (value, s) ← match s with
    | '=' :: rest => (readValue rest).map fun (v, after) => (some v, after)
    | _ => pure (none, s)
  let ((), s) ← readLineEnd (skipComment s)
  return (name.map fun n => ⟨n, value⟩, s)

/-- One assignment and the text after it; one that is not understood is skipped. -/
def step (s : List Char) : Option Binding × List Char :=
  match read s with
  | .ok found => found
  | .error failed => (none, nextLine failed)

/-- The assignments of a text. Every step leaves a shorter text, which the test makes plain. -/
def readAll (s : List Char) : List Binding :=
  match s.dropWhile Text.isBlank with
  | [] => []
  | c :: rest =>
    let (found, after) := step (c :: rest)
    if after.length < s.length then found.toList ++ readAll after else found.toList
termination_by s.length

/-- The text with every line ended by a line feed alone. -/
def unifyLines : List Char → List Char
  | [] => []
  | '\r' :: '\n' :: rest => '\n' :: unifyLines rest
  | '\r' :: rest => '\n' :: unifyLines rest
  | c :: rest => c :: unifyLines rest

/-- The assignments of a file. A byte order mark at its start is not part of it. -/
def ofFile (s : List Char) : List Binding :=
  match s with
  | '\uFEFF' :: rest => readAll (unifyLines rest)
  | _ => readAll (unifyLines s)

/-- A value between single quotes, with each single quote in it escaped. -/
def quoteValue (value : List Char) : List Char :=
  '\'' :: value.flatMap (fun c => if c = '\'' then ['\\', '\''] else [c]) ++ ['\'']

/-- An assignment as a line of a file. -/
def toLine (name value : List Char) : List Char :=
  name ++ '=' :: quoteValue value ++ ['\n']

end Binding

end ClockFace
