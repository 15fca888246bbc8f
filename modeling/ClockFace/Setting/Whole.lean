import ClockFace.Failure

/-! # Whole numbers in values

The whole number that a value stands for: a text is read as a numeral, a fraction is cut toward zero
and a truth value counts as one or zero. -/

namespace ClockFace

/-- The whole number that a text stands for. -/
def wholeOfText (s : String) : Except Failure Int :=
  match Number.readInteger s.toList with
  | .ok n => .ok n
  | .error .malformed => .error (.numeral s)
  | .error (.tooLong digits) => .error (.numeralLength digits)

/-- The whole number that a value stands for. -/
def Value.whole (v : Value) : Except Failure Int :=
  match v with
  | .text s => wholeOfText s
  | .int n => .ok n
  | .bool b => .ok (if b then 1 else 0)
  | .real d =>
    match d.toDouble? with
    | some x => .ok (Number.truncate x)
    | none => .error .infinite
  | .notNumber => .error .notNumber
  | _ => .error (.notNumeric v)

end ClockFace
