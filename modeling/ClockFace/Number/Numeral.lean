import ClockFace.Text.Blank
import ClockFace.Text.Digit

/-! # Whole numbers in texts

A numeral is an optional sign and decimal digits of any script, with single underscores allowed
between digits and blanks around the whole. The digits of one numeral may come from several
scripts. `readInteger` reads it; a numeral of too many digits is refused before anything after its
digits is looked at. -/

namespace ClockFace.Number

/-- Why a text is not read as a whole number. -/
inductive NumeralError where
  /-- The text is not a numeral. -/
  | malformed
  /-- The numeral has this many digits, more than are read. -/
  | tooLong (digits : Nat)
  deriving DecidableEq, Repr

/-- The most digits that are read. -/
def digitLimit : Nat := 4300

/-- A blank that may stand around a numeral: the information separators may not. -/
def isMargin (c : Char) : Bool :=
  Text.isBlank c && !(0x1C ≤ c.toNat && c.toNat ≤ 0x1F)

/-- The values of the longest start of the text made of digits and underscores, with what follows it;
none if an underscore lacks a digit on one side or there is no digit. `inside` says that a digit
stands before the text. -/
def digitRun (inside : Bool) : List Char → Option (List Nat × List Char)
  | [] => if inside then some ([], []) else none
  | c :: rest =>
    match Text.decimalValue? c with
    | some d => (digitRun true rest).map fun (ds, tail) => (d :: ds, tail)
    | none =>
      if !inside then none
      else if c = '_' then digitRun false rest
      else some ([], c :: rest)

/-- The number that digits stand for, most significant first. -/
def ofDigits (ds : List Nat) : Nat :=
  ds.foldl (fun n d => 10 * n + d) 0

/-- The number that unsigned digits stand for. -/
def readDigits (s : List Char) : Except NumeralError Nat :=
  match digitRun false s with
  | none => .error .malformed
  | some (ds, tail) =>
    if digitLimit < ds.length then .error (.tooLong ds.length)
    else if tail.isEmpty then .ok (ofDigits ds)
    else .error .malformed

/-- The whole number that a text stands for. -/
def readInteger (s : List Char) : Except NumeralError Int :=
  match Text.dropEndWhile isMargin (s.dropWhile isMargin) with
  | '-' :: rest => (readDigits rest).map fun n => -(n : Int)
  | '+' :: rest => (readDigits rest).map fun n => (n : Int)
  | rest => (readDigits rest).map fun n => (n : Int)

end ClockFace.Number
