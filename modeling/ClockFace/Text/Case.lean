import ClockFace.Text.CaseTable

/-! # Upper and lower case

The full case mappings of Unicode, the same for every locale: a character may become several, and a
capital sigma becomes a final sigma where it ends a word. -/

namespace ClockFace.Text

/-- The image of a character under simple runs and expansions; unlisted characters stay. -/
def mapCase (runs : List CaseRun) (expansions : List (Nat × List Nat)) (c : Char) : List Char :=
  match expansions.lookup c.toNat with
  | some image => image.map Char.ofNat
  | none =>
    match runs.findSome? (·.image? c.toNat) with
    | some n => [Char.ofNat n]
    | none => [c]

/-- The upper case of one character. -/
def upperChar (c : Char) : List Char :=
  mapCase upperRuns upperExpansions c

/-- The lower case of one character, apart from its neighbours. -/
def lowerChar (c : Char) : List Char :=
  mapCase lowerRuns lowerExpansions c

/-- The capital sigma, whose lower case depends on its place in the word. -/
def capitalSigma : Char := 'Σ'

/-- The nearest character that a word's case does not pass over has a case. -/
def reachesCased (s : List Char) : Bool :=
  match s.dropWhile caseIgnorable.contains with
  | [] => false
  | c :: _ => cased.contains c

/-- The lower case of a text; `before` holds the characters already read, last first. -/
def lowerAfter (before : List Char) : List Char → List Char
  | [] => []
  | c :: rest =>
    let image :=
      if c = capitalSigma then
        if reachesCased before && !reachesCased rest then ['ς'] else ['σ']
      else lowerChar c
    image ++ lowerAfter (c :: before) rest

/-- The lower case of a text. -/
def lower (s : List Char) : List Char :=
  lowerAfter [] s

/-- The upper case of a text. -/
def upper (s : List Char) : List Char :=
  s.flatMap upperChar

/-- The text with its first character in upper case and the rest in lower case. -/
def capitalised : List Char → List Char
  | [] => []
  | c :: rest => upperChar c ++ lower rest

end ClockFace.Text
