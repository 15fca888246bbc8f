/-! # Pattern tokens

A pattern is a text with fields: a run of one field letter outside quotes is a field, two apostrophes
in a row are an apostrophe, a single apostrophe opens or closes a quotation and everything else is
text. A quotation that is left open at the end says nothing.

Reading goes in three steps, each of which keeps the place that everything comes from:

* `Mark.ofPattern` pairs the apostrophes, from left to right;
* `Atom.scan` follows the quotations and tells field letters from text;
* `Token.group` puts the runs of one field letter together.

The places are of any type, because the steps only carry them along (`Atom.scan_map`,
`Token.group_map`); `Token.ofPattern` uses the offsets in the pattern. -/

namespace ClockFace

/-- The letters that stand for fields. -/
def fieldLetters : List Char :=
  "GyYuQqMLwWdDFgEecabBhHKkmsSAzZOvVxX".toList

/-- The letter stands for a field. -/
def isFieldLetter (c : Char) : Bool :=
  fieldLetters.contains c

/-- A character of a pattern once its apostrophes are paired. -/
inductive Mark where
  /-- An apostrophe that is meant as one. -/
  | apostrophe
  /-- An apostrophe that opens or closes a quotation. -/
  | quote
  | char (c : Char)
  deriving DecidableEq, Repr

namespace Mark

/-- The marks of a pattern whose first character lies at offset `start`. A zero character is
another spelling of an apostrophe. -/
def readFrom (start : Nat) : List Char → List (Nat × Mark)
  | [] => []
  | '\'' :: '\'' :: rest => (start, .apostrophe) :: readFrom (start + 2) rest
  | c :: rest =>
    let mark := if c = '\'' then .quote else if c = '\x00' then .apostrophe else .char c
    (start, mark) :: readFrom (start + 1) rest

/-- The marks of a pattern, each with its offset. -/
def ofPattern (pattern : List Char) : List (Nat × Mark) :=
  readFrom 0 pattern

end Mark

/-- A character that a pattern says something with. -/
inductive Atom where
  | text (c : Char)
  | field (letter : Char)
  deriving DecidableEq, Repr

namespace Atom

/-- A mark inside a quotation, or an apostrophe, as text. -/
def quoted : Mark → Atom
  | .char c => .text c
  | _ => .text '\''

/-- A mark outside quotations. -/
def unquoted : Mark → Atom
  | .char c => if isFieldLetter c then .field c else .text c
  | _ => .text '\''

/-- The atoms of the marks. Inside a quotation, `held` keeps what it has said so far, last first;
it counts once the quotation closes. -/
def scan {α : Type} (held : Option (List (α × Atom))) : List (α × Mark) → List (α × Atom)
  | [] => []
  | (place, mark) :: rest =>
    match held with
    | none =>
      if mark = .quote then scan (some []) rest
      else (place, unquoted mark) :: scan none rest
    | some said =>
      if mark = .quote then said.reverse ++ scan none rest
      else scan (some ((place, quoted mark) :: said)) rest

/-- Scanning carries the places along. -/
theorem scan_map {α β : Type} (f : α → β) (held : Option (List (α × Atom)))
    (marks : List (α × Mark)) :
    scan (held.map (·.map (Prod.map f id))) (marks.map (Prod.map f id)) =
      (scan held marks).map (Prod.map f id) := by
  induction marks generalizing held with
  | nil => rfl
  | cons m rest ih =>
    obtain ⟨place, mark⟩ := m
    have none_ih := ih none
    have some_ih := fun said => ih (some said)
    simp only [Option.map_none, Option.map_some] at none_ih some_ih
    cases held with
    | none =>
      simp only [Option.map_none, List.map_cons, Prod.map, id, scan]
      split
      · exact some_ih []
      · simp only [List.map_cons, Prod.map, id]
        exact congrArg _ none_ih
    | some said =>
      simp only [Option.map_some, List.map_cons, Prod.map, id, scan]
      split
      · rw [List.map_append, List.map_reverse]
        exact congrArg _ none_ih
      · exact some_ih ((place, quoted mark) :: said)

end Atom

/-- A character of text or a field: a letter and how often it is repeated. -/
inductive Token where
  | text (c : Char)
  | field (letter : Char) (length : Nat)
  deriving DecidableEq, Repr

namespace Token

/-- Put an atom before tokens: a field letter joins a field of the same letter that follows. -/
def addAtom {α : Type} (atom : α × Atom) (tokens : List (α × Token)) : List (α × Token) :=
  match atom with
  | (place, .text c) => (place, .text c) :: tokens
  | (place, .field letter) =>
    match tokens with
    -- Atoms are added from the right, so a field grows at its front.
    | (next, .field other n) :: rest =>
      if letter = other then (place, .field letter (n + 1)) :: rest
      else (place, .field letter 1) :: (next, .field other n) :: rest
    | rest => (place, .field letter 1) :: rest

/-- The tokens of atoms, each at the place of its first atom. -/
def group {α : Type} (atoms : List (α × Atom)) : List (α × Token) :=
  atoms.foldr addAtom []

theorem addAtom_map {α β : Type} (f : α → β) (atom : α × Atom) (tokens : List (α × Token)) :
    addAtom (Prod.map f id atom) (tokens.map (Prod.map f id)) =
      (addAtom atom tokens).map (Prod.map f id) := by
  obtain ⟨place, atom⟩ := atom
  cases atom with
  | text c => rfl
  | field letter =>
    cases tokens with
    | nil => rfl
    | cons t rest =>
      obtain ⟨next, token⟩ := t
      cases token with
      | text c => rfl
      | field other n =>
        simp only [Prod.map, List.map_cons, id, addAtom]
        split <;> rfl

/-- Grouping carries the places along. -/
theorem group_map {α β : Type} (f : α → β) (atoms : List (α × Atom)) :
    group (atoms.map (Prod.map f id)) = (group atoms).map (Prod.map f id) := by
  induction atoms with
  | nil => rfl
  | cons a rest ih =>
    simp only [group, List.map_cons, List.foldr_cons] at ih ⊢
    rw [ih, addAtom_map]

/-- The tokens of a pattern, each with the offset of its first character. -/
def ofPattern (pattern : List Char) : List (Nat × Token) :=
  group (Atom.scan none (Mark.ofPattern pattern))

end Token

end ClockFace
