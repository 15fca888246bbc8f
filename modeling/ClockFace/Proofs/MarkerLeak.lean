import ClockFace.Proofs.FaceClosed
import ClockFace.Proofs.FieldText
import ClockFace.Proofs.MarkerInject
import Mathlib.Data.List.Basic

/-! # Markers in faces

Which markers a face shows depends only on the markers of the text that is settled, in
their order (`Face.free_settledText_iff`). They come from the date, from the literal text
of the pattern and from the marking of the AM/PM run.

## Key results

- `Face.free_settledText_iff`: the markers that settling takes away altogether
- `Pattern.among_displayPattern`: the markers that a pattern gets from its AM/PM field
- `resolve_render_free_iff`: the faces of a selector that show no marker
-/

namespace ClockFace

open Marker

/-- The markers that an emphasis takes away, all of them. -/
def Emphasis.Clears (e : Emphasis) (marks : List Char) : Prop :=
  match e with
  | .none => marks = [] ∨ ∃ n, marks = List.replicate (n + 1) opening ++ [closing]
  | .small | .normal => marks = [] ∨ marks = [opening, closing]

/-- The markers around the AM/PM run of a pattern without markers, as an emphasis displays it. -/
def Marker.timeMarks (e : Emphasis) (base : List Char) : List Char :=
  match e with
  | .normal => []
  | .none | .small => if (find? base).isSome then [opening, closing] else []

namespace Face

/-! ## What settling takes away -/

/-- The markers alone tell whether there is a marked run. -/
theorem markedRun?_among_eq_none_iff (text : List Char) :
    markedRun? (among text) = none ↔ markedRun? text = none := by
  by_cases hclose : closing ∈ text
  · obtain ⟨lead, rest, rfl, hlead⟩ := List.eq_append_cons_of_mem hclose
    have hamong : among (lead ++ closing :: rest) = among lead ++ closing :: among rest := by
      rw [among_append]
      rfl
    have hlead' : closing ∉ among lead := fun h => hlead (mem_among.1 h).1
    rw [hamong, markedRun?_closing_eq_none_iff hlead, markedRun?_closing_eq_none_iff hlead',
      mem_among]
    simp
  · have hclose' : closing ∉ among text := fun h => hclose (mem_among.1 h).1
    rw [markedRun?_of_closing_not_mem hclose, markedRun?_of_closing_not_mem hclose']

/-- Without a closing marker, all markers are opening ones. -/
theorem among_eq_replicate {text : List Char} (h : closing ∉ text) :
    among text = List.replicate (among text).length opening := by
  refine List.eq_replicate_iff.2 ⟨rfl, fun c hc => ?_⟩
  obtain ⟨hmem, rfl | rfl⟩ := mem_among.1 hc
  · rfl
  · exact absurd hmem h

theorem among_text (m : MarkedText) :
    among m.text = opening :: (among m.run ++ closing :: among m.rest) := by
  rw [MarkedText.text, among_append, among_eq_nil_iff.2 m.before_free]
  show opening :: among (m.run ++ closing :: m.rest) = _
  rw [among_append]
  rfl

/-- The markers of a marked text are some opening ones and a closing one exactly if
nothing follows. -/
theorem among_text_eq_iff (m : MarkedText) (n : Nat) :
    among m.text = List.replicate (n + 1) opening ++ [closing] ↔
      among m.run = List.replicate n opening ∧ among m.rest = [] := by
  have hrun : closing ∉ List.replicate n opening := fun h =>
    opening_ne_closing (List.eq_of_mem_replicate h).symm
  rw [among_text, List.replicate_succ, List.cons_append, List.cons.injEq]
  constructor
  · rintro ⟨-, h⟩
    obtain ⟨hlead, -, hrest⟩ :=
      (List.append_cons_inj_of_notMem hrun List.not_mem_nil).1 h.symm
    exact ⟨hlead.symm, hrest.symm⟩
  · rintro ⟨hlead, hrest⟩
    rw [hlead, hrest]
    exact ⟨rfl, rfl⟩

/-- What an emphasis clears is nothing, or one marked run with nothing behind it. -/
theorem clears_among_text_iff (e : Emphasis) (m : MarkedText) :
    e.Clears (among m.text) ↔ Free (m.shown e) := by
  have hne : among m.text ≠ [] := by
    rw [among_text]
    exact List.cons_ne_nil _ _
  have hshown : Free (m.shown e) ↔ Free (e.runText m.run) ∧ Free m.rest := by
    rw [MarkedText.shown, free_append, free_append, and_iff_right m.before_free]
  -- With no opening marker but the first, the run is free
  have hpair : among m.text = [opening, closing] ↔ Free m.run ∧ Free m.rest := by
    rw [← among_eq_nil_iff, ← among_eq_nil_iff]
    exact among_text_eq_iff m 0
  rw [hshown]
  cases e with
  | none =>
    -- The run goes, with whatever opening markers it holds
    have hempty : Free [] := by decide
    have hrest : among m.rest = [] ↔ Free m.rest := among_eq_nil_iff
    simp only [Emphasis.Clears, hne, false_or, among_text_eq_iff, Emphasis.runText, hempty,
      true_and, ← hrest]
    constructor
    · rintro ⟨n, -, h⟩
      exact h
    · intro h
      exact ⟨_, among_eq_replicate m.run_unclosed, h⟩
  | small => simp only [Emphasis.Clears, hne, false_or, hpair, Emphasis.runText]
  | normal => simp only [Emphasis.Clears, hne, false_or, hpair, Emphasis.runText]

/-- What is cleared is nothing, or has a marked run. -/
theorem eq_nil_of_clears {e : Emphasis} {marks : List Char} (h : e.Clears marks)
    (hnone : markedRun? marks = none) : marks = [] := by
  have hrun (n : Nat) : markedRun? (List.replicate (n + 1) opening ++ [closing]) ≠ none := by
    intro hnone
    have hclose : closing ∉ List.replicate (n + 1) opening := fun hmem =>
      opening_ne_closing (List.eq_of_mem_replicate hmem).symm
    rw [markedRun?_closing_eq_none_iff hclose] at hnone
    exact hnone List.mem_cons_self
  cases e with
  | none =>
    obtain h | ⟨n, rfl⟩ := h
    · exact h
    · exact absurd hnone (hrun n)
  | small =>
    obtain h | rfl := h
    · exact h
    · exact absurd hnone (hrun 0)
  | normal =>
    obtain h | rfl := h
    · exact h
    · exact absurd hnone (hrun 0)

theorem clears_nil (e : Emphasis) : e.Clears [] := by
  cases e <;> exact .inl rfl

/-- Settling leaves no marker exactly if the emphasis clears those that there are. -/
theorem free_settledText_iff (e : Emphasis) (text : List Char) :
    Free (e.settledText text) ↔ e.Clears (among text) := by
  obtain hnone | ⟨m, rfl⟩ := markedRun?_eq_none_or text
  · rw [settledText_of_none e hnone, ← among_eq_nil_iff]
    constructor
    · intro hempty
      rw [hempty]
      exact clears_nil e
    · intro h
      exact eq_nil_of_clears h ((markedRun?_among_eq_none_iff text).2 hnone)
  · rw [settledText_text, clears_among_text_iff]

end Face

/-! ## The markers of the time -/

namespace Pattern

theorem literals_joinField (letter : Char) (tokens : List Token) :
    literals (Token.joinField letter tokens) = literals tokens := by
  match tokens with
  | [] => rfl
  | .text c :: rest => rfl
  | .field other n :: rest =>
    rw [Token.joinField]
    split <;> rfl

theorem literals_text (text : List Char) : literals (text.map .text) = text := by
  induction text with
  | nil => rfl
  | cons c rest ih => exact congrArg (c :: ·) ih

/-- A pattern whose literal text has no marker gets those around its AM/PM run, if it is
marked. -/
theorem among_displayPattern (e : Emphasis) {base : List Char}
    (hfree : Free (literals (tokensOf base))) :
    among (literals (tokensOf (Selector.displayPattern e base))) = timeMarks e base := by
  have hmarked : among (literals (tokensOf (inject base))) =
      if (Marker.find? base).isSome then [opening, closing] else [] := by
    cases hfind : Marker.find? base with
    | none =>
      rw [inject_of_find?_eq_none hfind]
      exact among_eq_nil_iff.2 hfree
    | some i =>
      obtain ⟨f, rfl, -, -, hinject⟩ := exists_fieldSplit hfind
      rw [f.tokensOf_pattern, literals_append, literals_append, literals_joinField,
        literals_text, free_append, free_append, ← among_eq_nil_iff, ← among_eq_nil_iff,
        ← among_eq_nil_iff] at hfree
      obtain ⟨hbefore, hblanks, hrest⟩ := hfree
      -- Marking puts the two markers into the literal text, and changes nothing else of it
      have hliterals : literals (tokensOf f.marked) = literals (tokensOf f.before) ++
          ([opening] ++ (f.blanks ++ ([closing] ++ literals (tokensOf f.rest)))) := by
        rw [f.tokensOf_marked, literals_append]
        show _ ++ opening :: literals (f.blanks.map .text ++ _) = _
        rw [literals_append, literals_text]
        rfl
      rw [hinject, hliterals, among_append, among_append, among_append, among_append, hbefore,
        hblanks, hrest]
      rfl
  cases e with
  | normal => exact among_eq_nil_iff.2 hfree
  | none => exact hmarked
  | small => exact hmarked

end Pattern

/-! ## The markers of faces -/

/-- The markers of the date and the time side by side. -/
theorem among_arrange (c : Config) (date time : List Char) :
    among (c.arrange Face.separator date time) = c.arrange [] (among date) (among time) := by
  have hsep : among Face.separator = [] := by decide
  by_cases hv : c.dateVisibility = .none
  · rw [Config.arrange_hidden hv, Config.arrange_hidden hv]
  · cases hp : c.datePosition with
    | left =>
      rw [Config.arrange_left hv hp, Config.arrange_left hv hp, among_append, among_append, hsep]
    | right =>
      rw [Config.arrange_right hv hp, Config.arrange_right hv hp, among_append, among_append, hsep]

/-- The markers of a face of written texts. -/
theorem free_face_text_iff (c : Config) (date time spoken : List Char) :
    Free (c.face date time spoken).text ↔
      c.emphasis.Clears (c.arrange [] (among date) (among time)) := by
  rw [← among_arrange, ← Face.free_settledText_iff, Face.text_face]

/-- A written pattern shows the markers of its literal text. -/
theorem among_write {locales : LocaleSource} {skeletons : SkeletonSource} {locale : Locale}
    {pattern text : List Char} {format : TimeFormat} {instant : Instant} (hlocale : locale.Free)
    (hformat : (FormatSource.ofLocales locales skeletons).format locale pattern = .ok format)
    (htext : format.write instant = .ok text) :
    among text = among (Pattern.literals (Pattern.tokensOf pattern)) := by
  simp only [FormatSource.format, FormatSource.ofLocales] at hformat
  cases hcompile : Pattern.compile pattern with
  | error e =>
    rw [hcompile] at hformat
    cases hformat
  | ok p =>
    rw [hcompile] at hformat
    obtain rfl := Except.ok.inj hformat
    obtain ⟨-, rfl⟩ := Pattern.compile_eq_ok_iff.1 hcompile
    exact Pattern.among_writeTokens hlocale htext

/-- A selector that has been asked anything before gives formats, in a locale without markers
in its texts, and a face is rendered with them. No marker shows, in its text or in what is read
aloud, exactly if the literal text of the pattern has none and the emphasis clears the markers
of the date together with those around the AM/PM run. -/
theorem resolve_render_free_iff {dates : DateWriter} {locales : LocaleSource}
    {skeletons : SkeletonSource} {requests : List Selector.Request} {c : Config}
    {instant : Instant} {f : Face}
    (hlocales : ∀ locale, locales c.locale = .ok locale → locale.Free)
    (hf : Attempt.outcome (do
        let formats ← Selector.resolve (.ofLocales locales skeletons) c.patternKey
        renderFace dates formats c.layout instant)
      (Selector.history (.ofLocales locales skeletons) requests) = .ok f) :
    ∃ locale base date,
      (FormatSource.ofLocales locales skeletons).base c.patternKey = .ok (locale, base) ∧
      (c.dateVisibility ≠ .none → c.layout.writeDate dates instant = .ok date) ∧
      (Free f.text ∧ Free f.spoken ↔
        Free (Pattern.literals (Pattern.tokensOf base)) ∧
          c.emphasis.Clears (c.arrange [] (among date) (timeMarks c.emphasis base))) := by
  rw [Attempt.outcome_bind] at hf
  split at hf
  · next formats hformats =>
    have hsound := Selector.sound_history (.ofLocales locales skeletons) requests
    obtain ⟨locale, base, hbase, hdisplay, hspoken⟩ :=
      FormatSource.formats_eq_ok (Selector.outcome_resolve_eq_ok hsound hformats)
    have hlocale := hlocales locale (FormatSource.locales_of_base hbase)
    rw [renderFace_outcome] at hf
    obtain ⟨date, time, spoken, htime, hsaid, hdate, rfl⟩ := Face.ofInstant_eq_ok hf
    refine ⟨locale, base, date, hbase, hdate, ?_⟩
    have hloud : Free spoken ↔ Free (Pattern.literals (Pattern.tokensOf base)) := by
      rw [← among_eq_nil_iff, among_write hlocale hspoken hsaid, among_eq_nil_iff]
    rw [free_face_text_iff, and_comm]
    show Free spoken ∧ _ ↔ _
    rw [hloud]
    -- Where nothing marked is read aloud, the markers of the time are those around its run
    refine and_congr_right fun hfree => ?_
    rw [among_write hlocale hdisplay htime]
    show c.emphasis.Clears (c.arrange [] _ (among (Pattern.literals (Pattern.tokensOf
      (Selector.displayPattern c.emphasis base))))) ↔ _
    rw [Pattern.among_displayPattern c.emphasis hfree]
  · cases hf

/-- A date without markers: nothing shows of the marking of the run. -/
theorem resolve_render_free_iff_wednesday :
    let skeletons : SkeletonSource :=
      .table [] (some ⟨"HH:mm:ss", "h:mm:ss a", "HH:mm", "h:mm a"⟩)
    let c : Config := { dateVisibility := .normal }
    Attempt.outcome (do
          let formats ← Selector.resolve (.ofSkeletons skeletons) c.patternKey
          renderFace DateText.write formats c.layout .afternoon)
        (Selector.history (.ofSkeletons skeletons) [.resolve c.patternKey, .invalidate]) =
        .ok ⟨"Wed 3:04".toList, [], "3:04 PM".toList⟩ ∧
      ∃ locale base date,
        (FormatSource.ofSkeletons skeletons).base c.patternKey = .ok (locale, base) ∧
        (c.dateVisibility ≠ .none → c.layout.writeDate DateText.write .afternoon = .ok date) ∧
        (Free "Wed 3:04".toList ∧ Free "3:04 PM".toList ↔
          Free (Pattern.literals (Pattern.tokensOf base)) ∧
            c.emphasis.Clears (c.arrange [] (among date) (timeMarks c.emphasis base))) := by
  intro skeletons c
  have hf : Attempt.outcome (do
        let formats ← Selector.resolve (.ofSkeletons skeletons) c.patternKey
        renderFace DateText.write formats c.layout .afternoon)
      (Selector.history (.ofSkeletons skeletons) [.resolve c.patternKey, .invalidate]) =
      .ok ⟨"Wed 3:04".toList, [], "3:04 PM".toList⟩ :=
    eq_ok_of_toOption (by decide +kernel)
  exact ⟨hf, resolve_render_free_iff (fun _ h => Locale.free_of_ofTag h) hf⟩

/-- A date pattern with a closing marker: the search finds no run, and all markers show. -/
theorem resolve_render_leak :
    let skeletons : SkeletonSource :=
      .table [] (some ⟨"HH:mm:ss", "h:mm:ss a", "HH:mm", "h:mm a"⟩)
    let c : Config := { dateVisibility := .normal, dateFormat := "\uef01EEE" }
    Attempt.outcome (do
          let formats ← Selector.resolve (.ofSkeletons skeletons) c.patternKey
          renderFace DateText.write formats c.layout .afternoon)
        (Selector.history (.ofSkeletons skeletons) []) =
        .ok ⟨"\uef01Wed 3:04\uef00 PM\uef01".toList, [], "3:04 PM".toList⟩ ∧
      ¬Free "\uef01Wed 3:04\uef00 PM\uef01".toList := by
  intro skeletons c
  exact ⟨eq_ok_of_toOption (by decide +kernel), by decide⟩

end ClockFace
