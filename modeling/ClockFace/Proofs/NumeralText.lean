import ClockFace.Setting.Whole
import Mathlib.Data.List.DropRight

/-! # Reading numerals

A text of decimal digits, of whatever scripts, is read as the number that they stand for, unless
there are too many of them; a digit that is not a decimal one ends the numeral. The decimal text of
a whole number is read as that number.

## Key results

- `readDigits_of_forall`: texts of decimal digits
- `readInteger_pair`: texts of two digits of any kind
- `wholeOfText_toString`: the decimal text of a whole number
-/

namespace ClockFace

/-! ## Digits -/

/-- The code points of the blanks. -/
def Text.blankCodes : List Nat :=
  [0x9, 0xA, 0xB, 0xC, 0xD, 0x1C, 0x1D, 0x1E, 0x1F, 0x20, 0x85, 0xA0, 0x1680, 0x2000, 0x2001,
   0x2002, 0x2003, 0x2004, 0x2005, 0x2006, 0x2007, 0x2008, 0x2009, 0x200A, 0x2028, 0x2029, 0x202F,
   0x205F, 0x3000]

/-- No blank is a digit of any kind. -/
theorem Text.isDigit_of_isBlank {c : Char} (h : isBlank c = true) : isDigit c = false := by
  have hcode : c.toNat ∈ blankCodes := by
    simp only [isBlank, Bool.or_eq_true, Bool.and_eq_true, decide_eq_true_eq, beq_iff_eq] at h
    simp only [blankCodes, List.mem_cons, List.not_mem_nil, or_false]
    omega
  have hall : ∀ n ∈ blankCodes, isDigit (Char.ofNat n) = false := by decide +kernel
  rw [← Char.ofNat_toNat c]
  exact hall _ hcode

/-- The value of an ASCII digit. -/
theorem Text.decimalValue?_of_isDigit {c : Char} (h : c.isDigit = true) :
    decimalValue? c = some (c.toNat - '0'.toNat) := by
  simp only [Char.isDigit, Bool.and_eq_true, decide_eq_true_eq] at h
  have hlow : 48 ≤ c.toNat := h.1
  have hhigh : c.toNat < 58 := Nat.lt_succ_of_le h.2
  have hall : ∀ n < 58, 48 ≤ n → decimalValue? (Char.ofNat n) = some (n - '0'.toNat) := by
    decide +kernel
  have hvalue := hall c.toNat hhigh hlow
  rwa [Char.ofNat_toNat] at hvalue

namespace Number

open Text

/-- The number that two decimal digits stand for. -/
def decimalPair? (a b : Char) : Option Nat := do
  let m ← decimalValue? a
  let n ← decimalValue? b
  return 10 * m + n

theorem isMargin_of_isDigit {c : Char} (h : isDigit c = true) : isMargin c = false := by
  cases hblank : isBlank c with
  | false => rw [isMargin, hblank, Bool.false_and]
  | true =>
    rw [isDigit_of_isBlank hblank] at h
    cases h

theorem isDigit_of_decimalValue? {c : Char} (h : (decimalValue? c).isSome = true) :
    isDigit c = true := by
  rw [isDigit, h, Bool.true_or]

theorem isDigit_of_decimalPair? {a b : Char} {n : Nat} (h : decimalPair? a b = some n) :
    isDigit a = true ∧ isDigit b = true := by
  rw [decimalPair?] at h
  cases hfirst : decimalValue? a with
  | none =>
    rw [hfirst] at h
    cases h
  | some x =>
    cases hsecond : decimalValue? b with
    | none =>
      rw [hfirst, hsecond] at h
      cases h
    | some y =>
      exact ⟨isDigit_of_decimalValue? (hfirst ▸ rfl), isDigit_of_decimalValue? (hsecond ▸ rfl)⟩

/-! ## Texts of digits -/

section Digits

variable {cs : List Char}

theorem digitRun_of_forall (h : ∀ c ∈ cs, (decimalValue? c).isSome = true) {inside : Bool}
    (hne : inside = true ∨ cs ≠ []) :
    digitRun inside cs = some (cs.filterMap decimalValue?, []) := by
  induction cs generalizing inside with
  | nil =>
    obtain rfl : inside = true := hne.resolve_right fun hnil => hnil rfl
    rfl
  | cons c rest ih =>
    obtain ⟨d, hd⟩ := Option.isSome_iff_exists.1 (h c List.mem_cons_self)
    have hrest := ih (fun x hx => h x (List.mem_cons_of_mem c hx)) (.inl rfl : true = true ∨ _)
    rw [digitRun, hd, List.filterMap_cons, hd, hrest]
    rfl

theorem length_filterMap_of_forall (h : ∀ c ∈ cs, (decimalValue? c).isSome = true) :
    (cs.filterMap decimalValue?).length = cs.length :=
  List.filterMap_length_eq_length.2 h

/-- Decimal digits stand for a number, unless there are too many of them. -/
theorem readDigits_of_forall (hne : cs ≠ []) (h : ∀ c ∈ cs, (decimalValue? c).isSome = true) :
    readDigits cs =
      if digitLimit < cs.length then .error (.tooLong cs.length)
      else .ok (ofDigits (cs.filterMap decimalValue?)) := by
  rw [readDigits, digitRun_of_forall h (.inr hne)]
  simp only [length_filterMap_of_forall h, List.isEmpty_nil, if_true]

/-- A text without margins loses nothing at its ends. -/
theorem trimmed_eq (h : ∀ c ∈ cs, isMargin c = false) :
    dropEndWhile isMargin (cs.dropWhile isMargin) = cs := by
  have hfirst : cs.dropWhile isMargin = cs := by
    rw [List.dropWhile_eq_self_iff]
    intro hlength
    rw [h _ (List.getElem_mem hlength)]
    exact Bool.false_ne_true
  have hlast : cs.rdropWhile isMargin = cs := by
    rw [List.rdropWhile_eq_self_iff]
    intro hne
    rw [h _ (List.getLast_mem hne)]
    exact Bool.false_ne_true
  rw [hfirst]
  exact hlast

/-- Digits are read as they are. -/
theorem readInteger_of_forall (h : ∀ c ∈ cs, isDigit c = true) :
    readInteger cs = (readDigits cs).map fun n => (n : Int) := by
  have hmargin : ∀ c ∈ cs, isMargin c = false := fun c hc => isMargin_of_isDigit (h c hc)
  rw [readInteger, trimmed_eq hmargin]
  split
  · exact absurd (h _ List.mem_cons_self) (by decide)
  · exact absurd (h _ List.mem_cons_self) (by decide)
  · rfl

theorem readInteger_neg_of_forall (h : ∀ c ∈ cs, isDigit c = true) :
    readInteger ('-' :: cs) = (readDigits cs).map fun n => -(n : Int) := by
  have hmargin : ∀ c ∈ '-' :: cs, isMargin c = false := by
    intro c hc
    obtain rfl | hc := List.mem_cons.1 hc
    · decide
    · exact isMargin_of_isDigit (h c hc)
  rw [readInteger, trimmed_eq hmargin]
  rfl

/-- Two digits are read as the number that they stand for, if both are decimal. -/
theorem readInteger_pair {a b : Char} (ha : isDigit a = true) (hb : isDigit b = true) :
    readInteger [a, b] = match decimalPair? a b with
      | some n => .ok n
      | none => .error .malformed := by
  rw [readInteger_of_forall (by simp [ha, hb]), decimalPair?]
  cases hfirst : decimalValue? a with
  | none =>
    have hread : readDigits [a, b] = .error .malformed := by
      rw [readDigits, digitRun, hfirst]
      rfl
    rw [hread]
    rfl
  | some m =>
    cases hsecond : decimalValue? b with
    | none =>
      have hne : b ≠ '_' := by
        rintro rfl
        exact absurd hb (by decide)
      have hread : readDigits [a, b] = .error .malformed := by
        simp only [readDigits, digitRun, hfirst, hsecond, Bool.not_true, Bool.false_eq_true,
          if_neg hne, if_false]
        rfl
      rw [hread]
      rfl
    | some n =>
      have hread : readDigits [a, b] = .ok (10 * m + n) := by
        rw [readDigits_of_forall (by simp) (by simp [hfirst, hsecond])]
        simp [hfirst, hsecond, digitLimit, ofDigits]
      rw [hread]
      rfl

end Digits

/-! ## The decimal text of a number -/

theorem foldl_filterMap_decimalValue? {cs : List Char} (h : ∀ c ∈ cs, c.isDigit = true)
    (start : Nat) : (cs.filterMap decimalValue?).foldl (fun n d => 10 * n + d) start =
      Nat.ofDigitChars 10 cs start := by
  induction cs generalizing start with
  | nil => rfl
  | cons c rest ih =>
    have hvalue := decimalValue?_of_isDigit (h c List.mem_cons_self)
    rw [List.filterMap_cons, hvalue, List.foldl_cons, Nat.ofDigitChars_cons,
      ih fun x hx => h x (List.mem_cons_of_mem c hx)]

theorem readDigits_toDigits (n : Nat) :
    readDigits (Nat.toDigits 10 n) =
      if digitLimit < (Nat.toDigits 10 n).length then
        .error (.tooLong (Nat.toDigits 10 n).length)
      else .ok n := by
  have hdigit : ∀ c ∈ Nat.toDigits 10 n, c.isDigit = true := fun c hc =>
    Nat.isDigit_of_mem_toDigits (by decide) (by decide) hc
  have hvalue : ∀ c ∈ Nat.toDigits 10 n, (decimalValue? c).isSome = true := fun c hc => by
    rw [decimalValue?_of_isDigit (hdigit c hc), Option.isSome_some]
  rw [readDigits_of_forall Nat.toDigits_ne_nil hvalue, ofDigits,
    foldl_filterMap_decimalValue? hdigit, Nat.ofDigitChars_toDigits (by decide) (by decide)]

end Number

/-- The decimal text of a whole number is read as the number, unless it has too many digits. -/
theorem wholeOfText_toString (n : Int) :
    wholeOfText (toString n) =
      if Number.digitLimit < (Nat.toDigits 10 n.natAbs).length then
        .error (.numeralLength (Nat.toDigits 10 n.natAbs).length)
      else .ok n := by
  have hdigit (m : Nat) : ∀ c ∈ Nat.toDigits 10 m, Text.isDigit c = true := fun c hc => by
    refine Number.isDigit_of_decimalValue? ?_
    rw [Text.decimalValue?_of_isDigit (Nat.isDigit_of_mem_toDigits (by decide) (by decide) hc),
      Option.isSome_some]
  cases n with
  | ofNat m =>
    have htext : (toString (Int.ofNat m)).toList = Nat.toDigits 10 m := Nat.toList_repr
    rw [wholeOfText, htext, Number.readInteger_of_forall (hdigit m), Number.readDigits_toDigits,
      Int.ofNat_eq_natCast, Int.natAbs_natCast]
    by_cases hlimit : Number.digitLimit < (Nat.toDigits 10 m).length
    · rw [if_pos hlimit, if_pos hlimit]
      rfl
    · rw [if_neg hlimit, if_neg hlimit]
      rfl
  | negSucc m =>
    have htext : (toString (Int.negSucc m)).toList = '-' :: Nat.toDigits 10 (m + 1) := by
      have happend := String.toList_append (s := "-") (t := (m + 1).repr)
      rwa [Nat.toList_repr] at happend
    rw [wholeOfText, htext, Number.readInteger_neg_of_forall (hdigit (m + 1)),
      Number.readDigits_toDigits, Int.natAbs_negSucc]
    by_cases hlimit : Number.digitLimit < (Nat.toDigits 10 (m + 1)).length
    · rw [if_pos hlimit, if_pos hlimit]
      rfl
    · rw [if_neg hlimit, if_neg hlimit]
      rfl

end ClockFace
