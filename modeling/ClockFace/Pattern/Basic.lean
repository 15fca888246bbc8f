import ClockFace.Pattern.Field

/-! # Patterns

A pattern is compiled once, which checks the lengths of its fields, and then written for any number
of instants. Text is written as it is. -/

namespace ClockFace

/-- A compiled pattern. -/
structure Pattern where
  tokens : List Token
  deriving DecidableEq, Repr

namespace Token

/-- What a token writes for an instant in a locale. -/
def write (locale : Locale) (instant : Instant) : Token → Except Failure (List Char)
  | .text c => .ok [c]
  | .field letter length => Field.write letter length locale instant

end Token

namespace Pattern

/-- Refuse the first token of a length that it cannot have. -/
def check : List Token → Except Failure Unit
  | [] => .ok ()
  | .text _ :: rest => check rest
  | .field letter length :: rest =>
    if Field.isAllowed letter length then check rest
    else .error (.fieldLength letter length)

/-- The tokens of a pattern without their offsets. -/
def tokensOf (pattern : List Char) : List Token :=
  (Token.ofPattern pattern).map Prod.snd

/-- Compile a pattern. -/
def compile (pattern : List Char) : Except Failure Pattern :=
  match check (tokensOf pattern) with
  | .error e => .error e
  | .ok () => .ok ⟨tokensOf pattern⟩

/-- What tokens write one after the other; the first failure ends the writing. -/
def writeTokens (locale : Locale) (instant : Instant) : List Token → Except Failure (List Char)
  | [] => .ok []
  | t :: rest =>
    match t.write locale instant with
    | .error e => .error e
    | .ok first =>
      match writeTokens locale instant rest with
      | .error e => .error e
      | .ok more => .ok (first ++ more)

/-- What a pattern writes for an instant in a locale. -/
def write (p : Pattern) (locale : Locale) (instant : Instant) : Except Failure (List Char) :=
  writeTokens locale instant p.tokens

/-- Writing tokens after others is writing both and joining the texts. -/
theorem writeTokens_append (locale : Locale) (instant : Instant) (a b : List Token) :
    writeTokens locale instant (a ++ b) =
      match writeTokens locale instant a with
      | .error e => .error e
      | .ok first =>
        match writeTokens locale instant b with
        | .error e => .error e
        | .ok more => .ok (first ++ more) := by
  induction a with
  | nil => simp only [List.nil_append, writeTokens]; cases writeTokens locale instant b <;> rfl
  | cons t rest ih =>
    simp only [List.cons_append, writeTokens, ih]
    cases t.write locale instant with
    | error e => rfl
    | ok first =>
      cases writeTokens locale instant rest with
      | error e => rfl
      | ok more => cases writeTokens locale instant b <;> simp

/-- Compile a pattern and write it. -/
def writeText (pattern : List Char) (locale : Locale) (instant : Instant) :
    Except Failure (List Char) :=
  compile pattern >>= fun p => p.write locale instant

end Pattern

end ClockFace
