import ClockFace.Proofs.PatternSplit
import ClockFace.Proofs.SelectorHistory
import Mathlib.Data.List.DropRight

/-! # Marking the AM/PM field

A pattern with the AM/PM field marked compiles if the pattern does, and so do its parts
before the blanks of the field and behind the field. It writes what the parts write, with
the blanks and the AM/PM text between the markers.

The pattern is cut in four places: before the blanks, before the field, behind the field
and behind the closing marker. No cut lies in a quotation, as the field stands outside,
and none goes on a field: text stands before and behind, and the first AM/PM letter
outside quotations joins nothing before it.

## Key results

- `Marker.exists_fieldSplit`: the field that is found splits the pattern
- `FieldSplit.tokensOf_pattern`, `FieldSplit.tokensOf_marked`: the tokens before and after marking
- `FieldSplit.writeText_marked`: what the marked pattern writes
- `inject_compile_write`: marking goes with compiling and writing, for a selector with any history
-/

namespace ClockFace

open Pattern

namespace Text

/-- No blank is a field letter. -/
theorem not_isFieldLetter_of_isBlank {c : Char} (h : isBlank c = true) :
    isFieldLetter c = false := by
  have hletters : fieldLetters.all (fun letter => !isBlank letter) = true := by decide
  rw [Bool.eq_false_iff]
  intro hfield
  rw [isFieldLetter, List.contains_iff_mem] at hfield
  have hnot := List.all_eq_true.1 hletters c hfield
  rw [h] at hnot
  cases hnot

/-- Outside quotations, a blank is itself as text. -/
theorem unquoted_of_isBlank {c : Char} (h : isBlank c = true) :
    c ≠ '\'' ∧ Atom.unquoted (Mark.of c) = .text c := by
  have hquote : c ≠ '\'' := by
    rintro rfl
    exact absurd h (by decide)
  have hzero : c ≠ '\x00' := by
    rintro rfl
    exact absurd h (by decide)
  refine ⟨hquote, ?_⟩
  rw [Mark.of, if_neg hquote, if_neg hzero, Atom.unquoted, not_isFieldLetter_of_isBlank h]
  rfl

/-- A text is what is left of it without the blanks at its end, and these blanks. -/
theorem trimEnd_append (s : List Char) : trimEnd s ++ s.rtakeWhile isBlank = s :=
  List.rdropWhile_append_rtakeWhile

theorem drop_length_trimEnd (s : List Char) :
    s.drop (trimEnd s).length = s.rtakeWhile isBlank := by
  have h := congrArg (List.drop (trimEnd s).length) (trimEnd_append s)
  rw [List.drop_left] at h
  exact h.symm

/-- No blank ends what is left. -/
theorem isBlank_getLast?_trimEnd (s : List Char) :
    ∀ c, (trimEnd s).getLast? = some c → isBlank c = false := by
  intro c hc
  have hne : trimEnd s ≠ [] := by
    intro hnil
    rw [hnil] at hc
    cases hc
  rw [List.getLast?_eq_some_getLast hne] at hc
  obtain rfl := Option.some.inj hc
  exact Bool.eq_false_iff.2 (List.rdropWhile_last_not isBlank s hne)

end Text

namespace Marker

/-- A pattern around its AM/PM field, with the blanks before it. The field stands outside
quotations and is the first. -/
structure FieldSplit where
  before : List Char
  blanks : List Char
  rest : List Char
  blanks_blank : ∀ c ∈ blanks, Text.isBlank c = true
  before_last : ∀ c, before.getLast? = some c → Text.isBlank c = false
  before_unquoted : quotedAfter false before = false
  first : findIn false (before ++ blanks) = none

namespace FieldSplit

/-- The pattern itself. -/
def pattern (f : FieldSplit) : List Char :=
  (f.before ++ f.blanks) ++ amPmLetter :: f.rest

/-- The pattern with the field and its blanks marked. -/
def marked (f : FieldSplit) : List Char :=
  f.before ++ opening :: f.blanks ++ amPmLetter :: closing :: f.rest

end FieldSplit

theorem not_mem_apostrophe_of_isBlank {blanks : List Char}
    (h : ∀ c ∈ blanks, Text.isBlank c = true) : '\'' ∉ blanks :=
  fun hmem => (Text.unquoted_of_isBlank (h _ hmem)).1 rfl

/-- A pattern with an AM/PM field is split around the first one, which is the one that is
marked. -/
theorem exists_fieldSplit {b : List Char} {i : Nat} (h : find? b = some i) :
    ∃ f : FieldSplit, f.pattern = b ∧ b.take i = f.before ++ f.blanks ∧ b.drop (i + 1) = f.rest ∧
      inject b = f.marked := by
  obtain ⟨htext, hquoted, hfirst⟩ := findIn_eq_some h
  have hblank : ∀ c ∈ (b.take i).rtakeWhile Text.isBlank, Text.isBlank c = true :=
    fun c hc => List.mem_rtakeWhile_imp hc
  have happend := Text.trimEnd_append (b.take i)
  -- The field stands outside quotations, and so does the place before its blanks
  have hbefore : quotedAfter false (Text.trimEnd (b.take i)) = false := by
    rw [← happend, quotedAfter_append,
      quotedAfter_of_not_mem (not_mem_apostrophe_of_isBlank hblank)] at hquoted
    exact hquoted
  rw [← happend] at hfirst
  refine ⟨⟨Text.trimEnd (b.take i), (b.take i).rtakeWhile Text.isBlank, b.drop (i + 1), hblank,
    Text.isBlank_getLast?_trimEnd _, hbefore, hfirst⟩, ?_, happend.symm, rfl, ?_⟩
  · rw [FieldSplit.pattern, happend]
    exact htext.symm
  · rw [inject, h]
    simp only [FieldSplit.marked, Text.drop_length_trimEnd]

namespace FieldSplit

/-! ## Tokens -/

theorem unquoted_opening : Atom.unquoted (Mark.of opening) = .text opening := by decide

theorem unquoted_closing : Atom.unquoted (Mark.of closing) = .text closing := by decide

theorem unquoted_amPmLetter : Atom.unquoted (Mark.of amPmLetter) = .field amPmLetter := by decide

/-- Blanks in front are text. -/
theorem tokensOf_blanks_append {blanks : List Char} (h : ∀ c ∈ blanks, Text.isBlank c = true)
    (rest : List Char) : tokensOf (blanks ++ rest) = blanks.map .text ++ tokensOf rest := by
  induction blanks with
  | nil => rfl
  | cons c more ih =>
    rw [List.forall_mem_cons] at h
    obtain ⟨hquote, hsaid⟩ := Text.unquoted_of_isBlank h.1
    rw [List.cons_append, tokensOf_cons_text hquote hsaid, ih h.2]
    rfl

/-- Blanks behind are text, too. -/
theorem tokensOf_before_blanks (f : FieldSplit) :
    tokensOf (f.before ++ f.blanks) = tokensOf f.before ++ f.blanks.map .text := by
  cases hblanks : f.blanks with
  | nil => simp
  | cons c more =>
    have hall := f.blanks_blank
    rw [hblanks] at hall
    obtain ⟨hquote, hsaid⟩ := Text.unquoted_of_isBlank (hall c List.mem_cons_self)
    have htokens := tokensOf_blanks_append hall []
    rw [List.append_nil] at htokens
    rw [tokensOf_append_cons more hquote f.before_unquoted, htokens]
    · simp [tokensOf, Token.ofPattern, Mark.ofPattern, Mark.readFrom, Atom.scan, Token.group]
    · intro letter hletter
      rw [hsaid] at hletter
      cases hletter

/-- The field joins a field of the same letter behind it, but nothing before it. -/
theorem tokensOf_pattern (f : FieldSplit) :
    tokensOf f.pattern =
      tokensOf f.before ++
        (f.blanks.map .text ++ Token.joinField amPmLetter (tokensOf f.rest)) := by
  have hquoted : quotedAfter false (f.before ++ f.blanks) = false := by
    rw [quotedAfter_append, f.before_unquoted,
      quotedAfter_of_not_mem (not_mem_apostrophe_of_isBlank f.blanks_blank)]
  -- No AM/PM field comes before, so none goes on with the letter
  have hfirst := ne_field_of_find? f.first
  rw [pattern, tokensOf_append_cons f.rest (by decide) hquoted, tokensOf_before_blanks,
    tokensOf_cons_field (by decide) unquoted_amPmLetter, List.append_assoc]
  intro letter hletter
  rw [unquoted_amPmLetter] at hletter
  obtain rfl := Atom.field.inj hletter
  exact hfirst

/-- Between the markers, the field stands alone. -/
theorem tokensOf_marked (f : FieldSplit) :
    tokensOf f.marked =
      tokensOf f.before ++ .text opening ::
        (f.blanks.map .text ++ .field amPmLetter 1 :: .text closing :: tokensOf f.rest) := by
  rw [marked, List.append_assoc, List.cons_append,
    tokensOf_append_cons _ (by decide) f.before_unquoted,
    tokensOf_cons_text (by decide) unquoted_opening, tokensOf_blanks_append f.blanks_blank,
    tokensOf_cons_field (by decide) unquoted_amPmLetter,
    tokensOf_cons_text (by decide) unquoted_closing]
  · rfl
  · intro letter hletter
    rw [unquoted_opening] at hletter
    cases hletter

/-! ## Compiling -/

theorem check_text_append (text : List Char) (rest : List Token) :
    check (text.map Token.text ++ rest) = check rest := by
  induction text with
  | nil => rfl
  | cons c more ih => exact ih

theorem isAllowed_amPm_of_succ {n : Nat} (h : Field.isAllowed amPmLetter (n + 1) = true) :
    Field.isAllowed amPmLetter n = true := by
  have hle : n + 1 ≤ 5 := of_decide_eq_true h
  exact decide_eq_true (Nat.le_of_succ_le hle)

/-- What compiles with an AM/PM letter in front compiles without it. -/
theorem check_of_joinField {tokens : List Token}
    (h : check (Token.joinField amPmLetter tokens) = .ok ()) : check tokens = .ok () := by
  match tokens with
  | [] => rfl
  | .text c :: rest => exact h
  | .field other n :: rest =>
    by_cases hsame : amPmLetter = other
    · -- The field loses its first letter, and every shorter length is allowed
      subst hsame
      rw [Token.joinField, if_pos rfl, check] at h
      rw [check]
      split at h
      · next hlong =>
        rw [if_pos (isAllowed_amPm_of_succ hlong)]
        exact h
      · cases h
    · rw [Token.joinField, if_neg hsame] at h
      exact h

/-- The parts of a pattern that compiles, and the marked pattern, compile as well. -/
theorem check_parts (f : FieldSplit) (h : check (tokensOf f.pattern) = .ok ()) :
    check (tokensOf f.before) = .ok () ∧ check (tokensOf f.rest) = .ok () ∧
      check (tokensOf f.marked) = .ok () := by
  rw [tokensOf_pattern, check_append_eq_ok_iff, check_text_append] at h
  have hrest := check_of_joinField h.2
  refine ⟨h.1, hrest, ?_⟩
  rw [tokensOf_marked, check_append_eq_ok_iff, check, check_text_append]
  exact ⟨h.1, hrest⟩

/-! ## Writing -/

theorem writeTokens_text_append (locale : Locale) (instant : Instant) (text : List Char)
    (rest : List Token) :
    writeTokens locale instant (text.map Token.text ++ rest) =
      (writeTokens locale instant rest).map (text ++ ·) := by
  induction text with
  | nil => cases h : writeTokens locale instant rest <;> simp [h, Except.map]
  | cons c more ih =>
    rw [List.map_cons, List.cons_append, writeTokens, Token.write, ih]
    cases writeTokens locale instant rest <;> rfl

/-- The marked pattern writes the parts, with the blanks and the AM/PM text between the
markers. -/
theorem writeText_marked (f : FieldSplit) (h : check (tokensOf f.pattern) = .ok ())
    (locale : Locale) (instant : Instant) :
    writeText f.marked locale instant = (do
      let x ← writeText f.before locale instant
      let m ← writeText [amPmLetter] locale instant
      let z ← writeText f.rest locale instant
      return x ++ opening :: f.blanks ++ m ++ closing :: z) := by
  obtain ⟨hbefore, hrest, hmarked⟩ := check_parts f h
  have hletter : tokensOf [amPmLetter] = [.field amPmLetter 1] := by decide
  have hcheck : check (tokensOf [amPmLetter]) = .ok () := by rw [hletter]; rfl
  rw [writeText_of_check hbefore, writeText_of_check hcheck, writeText_of_check hrest,
    writeText_of_check hmarked, hletter, tokensOf_marked, writeTokens_append]
  cases writeTokens locale instant (tokensOf f.before) with
  | error e => rfl
  | ok x =>
    simp only [writeTokens, Token.write, writeTokens_text_append, bind, Except.bind, pure,
      Except.pure]
    cases Field.write amPmLetter 1 locale instant with
    | error e => rfl
    | ok m =>
      simp only
      cases writeTokens locale instant (tokensOf f.rest) with
      | error e => rfl
      | ok z => simp [Except.map]

end FieldSplit

/-- A pattern without an AM/PM field is left as it is. -/
theorem inject_of_find?_eq_none {b : List Char} (h : find? b = none) : inject b = b := by
  rw [inject, h]

end Marker

namespace Selector

/-- A pattern compiles with its AM/PM run marked if it compiles as it is. -/
theorem compile_displayPattern {b : List Char} {p : Pattern} (h : compile b = .ok p)
    (e : Emphasis) : ∃ q, compile (displayPattern e b) = .ok q := by
  have hcheck := (compile_eq_ok_iff.1 h).1
  have hinject : ∃ q, compile (Marker.inject b) = .ok q := by
    cases hfind : Marker.find? b with
    | none =>
      rw [Marker.inject_of_find?_eq_none hfind]
      exact ⟨p, h⟩
    | some i =>
      obtain ⟨f, hpattern, -, -, hmarked⟩ := Marker.exists_fieldSplit hfind
      rw [← hpattern] at hcheck
      rw [hmarked]
      exact ⟨_, compile_eq_ok_iff.2 ⟨(f.check_parts hcheck).2.2, rfl⟩⟩
  cases e with
  | normal => exact ⟨p, h⟩
  | none => exact hinject
  | small => exact hinject

/-- The emphasis does not decide whether there are formats: where the pattern compiles, it
compiles with its AM/PM run marked, and where it does not, reading aloud has no format. -/
theorem isOk_formats (locales : LocaleSource) (skeletons : SkeletonSource) (key : PatternKey)
    (e : Emphasis) :
    ((FormatSource.ofLocales locales skeletons).formats { key with emphasis := e }).isOk =
      ((FormatSource.ofLocales locales skeletons).formats
        { key with emphasis := .normal }).isOk := by
  have hbase : (FormatSource.ofLocales locales skeletons).base { key with emphasis := e } =
      (FormatSource.ofLocales locales skeletons).base { key with emphasis := .normal } := rfl
  simp only [FormatSource.formats, hbase]
  cases (FormatSource.ofLocales locales skeletons).base { key with emphasis := .normal } with
  | error failure => rfl
  | ok found =>
    obtain ⟨locale, b⟩ := found
    have hnormal : displayPattern .normal b = b := rfl
    simp only [FormatSource.format, FormatSource.ofLocales, bind, Except.bind, hnormal]
    cases hb : compile b with
    | error failure =>
      -- Whether or not the marked pattern compiles, there is nothing to read aloud
      cases compile (displayPattern e b) <;> rfl
    | ok p =>
      obtain ⟨q, hq⟩ := compile_displayPattern hb e
      simp only [hq]
      rfl

end Selector

/-- Marking the AM/PM field goes with compiling and writing.

A pattern without the field stays as it is. Else the parts before the blanks of the field
and behind the field compile, and so does the marked pattern, which writes what the parts
write around the marked blanks and AM/PM text, and fails where one of them does. So a
selector, whatever it has been asked, gives formats for a key with one emphasis exactly if
it does with any other. -/
theorem inject_compile_write :
    (∀ (b : List Char) (p : Pattern), compile b = .ok p →
      (Marker.find? b = none → Marker.inject b = b) ∧
      ∀ i, Marker.find? b = some i → ∃ before blanks,
        b.take i = before ++ blanks ∧
        (∀ c ∈ blanks, Text.isBlank c = true) ∧
        (∀ c, before.getLast? = some c → Text.isBlank c = false) ∧
        (∃ q, compile before = .ok q) ∧
        (∃ q, compile (b.drop (i + 1)) = .ok q) ∧
        (∃ q, compile (Marker.inject b) = .ok q) ∧
        ∀ locale instant, writeText (Marker.inject b) locale instant = (do
          let x ← writeText before locale instant
          let m ← writeText [Marker.amPmLetter] locale instant
          let z ← writeText (b.drop (i + 1)) locale instant
          return x ++ Marker.opening :: blanks ++ m ++ Marker.closing :: z)) ∧
    ∀ (locales : LocaleSource) (skeletons : SkeletonSource) (requests : List Selector.Request)
      (key : PatternKey) (e : Emphasis),
      let source := FormatSource.ofLocales locales skeletons
      let s := Selector.history source requests
      ((Selector.resolve source { key with emphasis := e }).outcome s).isOk =
        ((Selector.resolve source { key with emphasis := .normal }).outcome s).isOk := by
  refine ⟨fun b p hb => ⟨Marker.inject_of_find?_eq_none, fun i hi => ?_⟩, ?_⟩
  · obtain ⟨f, hpattern, htake, hdrop, hmarked⟩ := Marker.exists_fieldSplit hi
    have hcheck := (compile_eq_ok_iff.1 hb).1
    rw [← hpattern] at hcheck
    obtain ⟨hbefore, hrest, hinject⟩ := f.check_parts hcheck
    refine ⟨f.before, f.blanks, htake, f.blanks_blank, f.before_last,
      ⟨_, compile_eq_ok_iff.2 ⟨hbefore, rfl⟩⟩, ?_, ?_, fun locale instant => ?_⟩
    · rw [hdrop]
      exact ⟨_, compile_eq_ok_iff.2 ⟨hrest, rfl⟩⟩
    · rw [hmarked]
      exact ⟨_, compile_eq_ok_iff.2 ⟨hinject, rfl⟩⟩
    · rw [hmarked, hdrop]
      exact f.writeText_marked hcheck locale instant
  · intro locales skeletons requests key e source s
    have hsound := Selector.sound_history source requests
    rw [Selector.isOk_outcome_resolve hsound, Selector.isOk_outcome_resolve hsound]
    exact Selector.isOk_formats locales skeletons key e

/-- The quoted letters and the apostrophe between them do not hide the field behind them. -/
theorem inject_compile_write_quoted :
    let b := "h 'alarm''s' a".toList
    compile b = .ok ⟨tokensOf b⟩ ∧ Marker.find? b = some 13 ∧
      ∃ before blanks,
        b.take 13 = before ++ blanks ∧
        (∀ c ∈ blanks, Text.isBlank c = true) ∧
        (∀ c, before.getLast? = some c → Text.isBlank c = false) ∧
        (∃ q, compile before = .ok q) ∧
        (∃ q, compile (b.drop 14) = .ok q) ∧
        (∃ q, compile (Marker.inject b) = .ok q) ∧
        ∀ locale instant, writeText (Marker.inject b) locale instant = (do
          let x ← writeText before locale instant
          let m ← writeText [Marker.amPmLetter] locale instant
          let z ← writeText (b.drop 14) locale instant
          return x ++ Marker.opening :: blanks ++ m ++ Marker.closing :: z) := by
  intro b
  have hb : compile b = .ok ⟨tokensOf b⟩ := rfl
  have hfind : Marker.find? b = some 13 := rfl
  exact ⟨hb, hfind, (inject_compile_write.1 b _ hb).2 13 hfind⟩

end ClockFace
