import ClockFace.Proofs.FaceClosed

/-! # The date beside the time

A face shows the date beside the time that it would show alone, unless a marker of the
date meets the search for the AM/PM run, which goes over the whole text. `Config.Keeps`
says for which texts of the date and the time the search does no harm.

## Key results

- `settledText_right_iff`, `settledText_left_iff`: when settling the whole text settles the time
- `renderFace_text_iff`: the date stands beside the time exactly where `Config.Keeps` holds
-/

namespace ClockFace

open Marker

/-- The date does not meet the search for the AM/PM run of the time.

On the left it has no marked run of its own, takes no run away from the time by closing
before it, and opens none that the time closes. On the right the time closes before the
date comes, or the date has no run of its own and closes none that the time opens. -/
def Config.Keeps (c : Config) (date time : List Char) : Prop :=
  match c.datePosition with
  | .left =>
    Face.markedRun? date = none ∧
      (closing ∈ date → Face.markedRun? time = none) ∧
      (closing ∉ date → opening ∈ date → closing ∉ time)
  | .right =>
    closing ∈ time ∨ Face.markedRun? date = none ∧ (opening ∈ time → closing ∉ date)

namespace MarkedText

/-- No closing marker stands before the one that ends the run. -/
theorem closing_not_mem_take (m : MarkedText) {n : Nat} (h : n ≤ m.stop) :
    closing ∉ m.text.take n := by
  rw [m.text_eq_lead, List.take_append_of_le_length (by rw [m.length_lead]; exact h)]
  exact fun hmem => m.closing_not_mem_lead (List.mem_of_mem_take hmem)

/-- Settling takes one closing marker. -/
theorem count_closing (e : Emphasis) (m : MarkedText) :
    m.text.count closing = (m.shown e).count closing + 1 := by
  have hrun : m.run.count closing = 0 := List.count_eq_zero.2 m.run_unclosed
  cases e <;> simp [text, shown, Emphasis.runText, opening_ne_closing, hrun] <;> omega

/-- What is removed ends with the closing marker, so that one character less of it lies before. -/
theorem removed_le (e : Emphasis) (m : MarkedText) : e.removed m.start m.stop ≤ m.stop + 1 := by
  have hlt := m.start_lt_stop
  cases e <;> simp only [Emphasis.removed] <;> omega

end MarkedText

namespace Face

/-- A list that reads the same with a value before it as with the value behind it holds
nothing else. -/
theorem eq_of_append_singleton {α : Type} {a : α} {l : List α} (h : l ++ [a] = a :: l) :
    ∀ x ∈ l, x = a := by
  induction l with
  | nil =>
    intro x hx
    cases hx
  | cons b rest ih =>
    rw [List.cons_append, List.cons.injEq] at h
    obtain ⟨rfl, h⟩ := h
    intro x hx
    obtain rfl | hx := List.mem_cons.1 hx
    · rfl
    · exact ih h x hx

/-- A date on the right leaves the time alone exactly if it makes no run of its own or
with the time. -/
theorem settledText_right_iff (e : Emphasis) (date time : List Char) :
    e.settledText (time ++ separator ++ date) = e.settledText time ++ separator ++ date ↔
      closing ∈ time ∨ markedRun? date = none ∧ (opening ∈ time → closing ∉ date) := by
  obtain htime | ⟨m, rfl⟩ := markedRun?_eq_none_or time
  · rw [settledText_of_none e htime, settledText_eq_self_iff, List.append_assoc,
      markedRun?_append_eq_none_iff, markedRun?_append_eq_none_iff]
    have hsep := separator_free
    by_cases hclose : closing ∈ time
    · simp [htime, hclose]
    · by_cases hdate : closing ∈ date
      · by_cases hopen : opening ∈ time <;>
          simp [htime, hclose, hopen, hdate, hsep.1, hsep.2, markedRun?_of_closing_not_mem hsep.2]
      · simp [htime, hclose, hdate, hsep.1, hsep.2, markedRun?_of_closing_not_mem]
  · let whole : MarkedText := ⟨m.before, m.run, m.rest ++ separator ++ date, m.before_free,
      m.run_unclosed⟩
    have hwhole : m.text ++ separator ++ date = whole.text := by
      simp [whole, MarkedText.text]
    have hclose : closing ∈ m.text := by simp [MarkedText.text]
    rw [hwhole, settledText_text, settledText_text]
    simp [whole, MarkedText.shown, hclose]

/-- A date with a run of its own takes that run's settling from the time. -/
theorem shown_date_ne (e : Emphasis) (date time : MarkedText) :
    date.shown e ++ separator ++ time.text ≠ date.text ++ separator ++ time.shown e := by
  intro h
  have hdate := date.length_shown e
  have htime := time.length_shown e
  have hpos := date.removed_pos e
  rw [List.append_assoc, List.append_assoc, List.append_eq_append_iff] at h
  obtain ⟨cut, htext, hrest⟩ | ⟨cut, hshown, -⟩ := h
  · -- The date is what settling leaves of it, and more: a blank and the text `cut`.
    cases cut with
    | nil =>
      rw [htext, List.append_nil] at hdate
      omega
    | cons blank cut =>
      rw [separator, List.cons_append, List.cons_append, List.cons.injEq] at hrest
      obtain ⟨rfl, hrest⟩ := hrest
      rw [List.nil_append] at hrest
      -- The closing marker that settling takes from the date is in `cut`, which begins the time
      have hcount := date.count_closing e
      rw [htext, List.count_append, List.count_cons_of_ne (by decide)] at hcount
      have hmem : closing ∈ cut := List.count_pos_iff.1 (by omega)
      have htake : time.text.take cut.length = cut := by
        rw [hrest, List.take_left]
      -- But `cut` ends before the time closes, as it is shorter than what the time loses
      have hlength := congrArg List.length hrest
      rw [List.length_append, List.length_append, List.length_singleton] at hlength
      have hremoved := time.removed_le e
      have hnot : closing ∉ time.text.take cut.length := time.closing_not_mem_take (by omega)
      rw [htake] at hnot
      exact hnot hmem
  · have hlength := congrArg List.length hshown
    rw [List.length_append] at hlength
    omega

/-- A date that opens a run takes the closing marker of the time. -/
theorem shown_opened_ne (e : Emphasis) {before behind : List Char} (time : MarkedText)
    (hbefore : Free before) (hbehind : closing ∉ behind) :
    e.settledText (before ++ opening :: behind ++ separator ++ time.text) ≠
      before ++ opening :: behind ++ separator ++ time.shown e := by
  let inner := behind ++ separator ++ time.before
  have hinner : closing ∉ inner ++ opening :: time.run := by
    have hsep := separator_free
    simp [inner, hbehind, hsep.2, time.before_free.2, time.run_unclosed, opening_ne_closing.symm]
  let whole : MarkedText := ⟨before, inner ++ opening :: time.run, time.rest, hbefore, hinner⟩
  have hwhole : before ++ opening :: behind ++ separator ++ time.text = whole.text := by
    simp [whole, inner, MarkedText.text]
  rw [hwhole, settledText_text]
  intro h
  by_cases he : e = .none
  · -- Then less is left than there should be.
    have hlength := congrArg List.length h
    simp [he, whole, MarkedText.shown, Emphasis.runText] at hlength
    omega
  · -- Then the opening marker of the time is left and that of the date is gone.
    have hrun (run : List Char) : e.runText run = run := by
      cases e <;> first | rfl | exact absurd rfl he
    have hshift : inner ++ [opening] = opening :: inner := by
      have h' : before ++ ((inner ++ [opening]) ++ (time.run ++ time.rest)) =
          before ++ ((opening :: inner) ++ (time.run ++ time.rest)) := by
        simpa [whole, inner, MarkedText.shown, hrun] using h
      exact List.append_cancel_right (List.append_cancel_left h')
    have hblank : ' ' ∈ inner := by simp [inner, separator]
    exact absurd (eq_of_append_singleton hshift ' ' hblank) (by decide)

/-- Beside a time with a run, only a date without markers leaves the time alone. -/
theorem settledText_left_marked_iff (e : Emphasis) (date : List Char) (time : MarkedText) :
    e.settledText (date ++ separator ++ time.text) = date ++ separator ++ time.shown e ↔
      Free date := by
  constructor
  · intro h
    obtain hwhole | ⟨whole, hwhole⟩ := markedRun?_eq_none_or (date ++ separator ++ time.text)
    · -- Nothing is settled, but the time alone would lose something.
      have hlength := time.length_shown e
      have hpos := time.removed_pos e
      rw [settledText_of_none e hwhole, List.append_cancel_left_eq] at h
      rw [← h] at hlength
      omega
    · obtain hdate | ⟨dateRun, rfl⟩ := markedRun?_eq_none_or date
      · have hunclosed : closing ∉ date := by
          -- A date that closes before it opens closes the whole text before it opens
          intro hclose
          have hnone := (markedRun?_append_eq_none_iff date (separator ++ time.text)).2
            ⟨hdate, fun hnot => absurd hclose hnot⟩
          rw [← List.append_assoc, ← hwhole, markedRun?_text] at hnone
          cases hnone
        by_cases hopen : opening ∈ date
        · obtain ⟨before, behind, rfl, hbefore⟩ := List.eq_append_cons_of_mem hopen
          simp only [List.mem_append, List.mem_cons, not_or] at hunclosed
          exact absurd h (shown_opened_ne e time ⟨hbefore, hunclosed.1⟩ hunclosed.2.2)
        · exact ⟨hopen, hunclosed⟩
      · let joined : MarkedText := ⟨dateRun.before, dateRun.run,
          dateRun.rest ++ separator ++ time.text, dateRun.before_free, dateRun.run_unclosed⟩
        have hjoined : dateRun.text ++ separator ++ time.text = joined.text := by
          simp [joined, MarkedText.text]
        rw [hjoined, settledText_text] at h
        refine absurd ?_ (shown_date_ne e dateRun time)
        simpa [joined, MarkedText.shown] using h
  · intro hfree
    let whole : MarkedText := ⟨date ++ separator ++ time.before, time.run, time.rest,
      free_append.2 ⟨free_append.2 ⟨hfree, separator_free⟩, time.before_free⟩, time.run_unclosed⟩
    have hwhole : date ++ separator ++ time.text = whole.text := by
      simp [whole, MarkedText.text]
    rw [hwhole, settledText_text]
    simp [whole, MarkedText.shown]

/-- A date on the left leaves the time alone exactly if it makes no run of its own or with
the time, and takes none away. -/
theorem settledText_left_iff (e : Emphasis) (date time : List Char) :
    e.settledText (date ++ separator ++ time) = date ++ separator ++ e.settledText time ↔
      markedRun? date = none ∧ (closing ∈ date → markedRun? time = none) ∧
        (closing ∉ date → opening ∈ date → closing ∉ time) := by
  obtain htime | ⟨m, rfl⟩ := markedRun?_eq_none_or time
  · rw [settledText_of_none e htime, settledText_eq_self_iff, List.append_assoc,
      markedRun?_append_eq_none_iff, markedRun?_append_eq_none_iff]
    have hsep := separator_free
    by_cases hclose : closing ∈ date <;>
      simp [htime, hclose, hsep.1, hsep.2, markedRun?_of_closing_not_mem]
  · have hclose : closing ∈ m.text := by simp [MarkedText.text]
    rw [settledText_text, settledText_left_marked_iff, markedRun?_text]
    constructor
    · intro hfree
      exact ⟨markedRun?_of_closing_not_mem hfree.2, fun h => absurd h hfree.2,
        fun _ h => absurd h hfree.1⟩
    · rintro ⟨-, hnot, hopen⟩
      have hunclosed : closing ∉ date := by
        intro h
        cases hnot h
      exact ⟨fun h => hopen hunclosed h hclose, hunclosed⟩

/-- A date without markers stays beside the time. -/
theorem settledText_arrange (e : Emphasis) {c : Config} {date : List Char}
    (hdate : c.dateVisibility ≠ .none → Free date) (time : List Char) :
    e.settledText (c.arrange separator date time) =
      c.arrange separator date (e.settledText time) := by
  by_cases hv : c.dateVisibility = .none
  · rw [Config.arrange_hidden hv, Config.arrange_hidden hv]
  · obtain ⟨hopening, hclosing⟩ := hdate hv
    have hnone := markedRun?_of_closing_not_mem hclosing
    cases hp : c.datePosition with
    | left =>
      rw [Config.arrange_left hv hp, Config.arrange_left hv hp]
      exact (settledText_left_iff e date time).2
        ⟨hnone, fun h => absurd h hclosing, fun _ h => absurd h hopening⟩
    | right =>
      rw [Config.arrange_right hv hp, Config.arrange_right hv hp]
      exact (settledText_right_iff e date time).2 (.inr ⟨hnone, fun _ => hclosing⟩)

end Face

/-- The text of a face is the date, in the case that is set, beside the time that would be shown
without it, exactly if the date does not meet the search for the AM/PM run. Without the date, there
is always a face. -/
theorem renderFace_text_iff {σ : Type} {dates : DateWriter} {formats : TimeFormats} {c : Config}
    {instant : Instant} {f : Face} (s s' : Session σ) (hv : c.dateVisibility ≠ .none)
    (hf : (renderFace dates formats c.layout instant).outcome s = .ok f) :
    ∃ written time alone,
      dates instant c.datePattern c.locale = .ok written ∧
      formats.display.write instant = .ok time ∧
      (renderFace dates formats { c with dateVisibility := .none }.layout instant).outcome s' =
        .ok alone ∧
      let date := c.dateCase.shown written
      (f.text = c.arrange Face.separator date alone.text ↔ c.Keeps date time) := by
  rw [renderFace_outcome] at hf
  obtain ⟨date, time, spoken, htime, hspoken, hdate, rfl⟩ := Face.ofInstant_eq_ok hf
  obtain ⟨written, hwritten, rfl⟩ := Config.writeDate_eq_ok_iff.1 (hdate hv)
  let date := c.dateCase.shown written
  let hidden : Config := { c with dateVisibility := .none }
  have halone : Face.ofInstant dates formats hidden.layout instant =
      .ok (hidden.face date time spoken) :=
    Face.ofInstant_layout htime hspoken fun hshown => absurd rfl hshown
  have htext : (hidden.face date time spoken).text = c.emphasis.settledText time :=
    Buffer.text_settled c.emphasis _
  refine ⟨written, time, hidden.face date time spoken, hwritten, htime, ?_, ?_⟩
  · rw [renderFace_outcome]
    exact halone
  · show (c.face date time spoken).text = _ ↔ c.Keeps date time
    rw [htext, Face.text_face, Config.Keeps]
    cases hp : c.datePosition with
    | left =>
      rw [Config.arrange_left hv hp, Config.arrange_left hv hp]
      exact Face.settledText_left_iff c.emphasis date time
    | right =>
      rw [Config.arrange_right hv hp, Config.arrange_right hv hp]
      exact Face.settledText_right_iff c.emphasis date time

/-- A date without markers stands beside the time that would be shown alone. -/
theorem renderFace_text_iff_wednesday :
    let formats : TimeFormats := ⟨0, .english "h:mm\uef00 a\uef01", .english "h:mm a"⟩
    let c : Config := { dateVisibility := .normal, datePosition := .right }
    (renderFace DateText.write formats c.layout .afternoon).outcome (⟨(), []⟩ : Session Unit) =
        .ok ⟨"3:04 Wed".toList, [], "3:04 PM".toList⟩ ∧
      ∃ written time alone,
        DateText.write .afternoon c.datePattern c.locale = .ok written ∧
        formats.display.write .afternoon = .ok time ∧
        (renderFace DateText.write formats { c with dateVisibility := .none }.layout
          .afternoon).outcome (⟨(), []⟩ : Session Unit) = .ok alone ∧
        let date := c.dateCase.shown written
        ("3:04 Wed".toList = c.arrange Face.separator date alone.text ↔ c.Keeps date time) := by
  intro formats c
  have hshown : (renderFace DateText.write formats c.layout .afternoon).outcome
      (⟨(), []⟩ : Session Unit) = .ok ⟨"3:04 Wed".toList, [], "3:04 PM".toList⟩ :=
    eq_ok_of_toOption (by decide +kernel)
  exact ⟨hshown, renderFace_text_iff ⟨(), []⟩ ⟨(), []⟩ (by decide) hshown⟩

/-- A date pattern with a closing marker: the AM/PM run that is hidden without the date
comes back, with the markers around it. -/
theorem renderFace_text_disturbed :
    let formats : TimeFormats := ⟨0, .english "h:mm\uef00 a\uef01", .english "h:mm a"⟩
    let c : Config := { dateVisibility := .normal, dateFormat := "\uef01EEE" }
    (renderFace DateText.write formats c.layout .afternoon).outcome (⟨(), []⟩ : Session Unit) =
        .ok ⟨"\uef01Wed 3:04\uef00 PM\uef01".toList, [], "3:04 PM".toList⟩ ∧
      c.layout.writeDate DateText.write .afternoon = .ok "\uef01Wed".toList ∧
      (renderFace DateText.write formats { c with dateVisibility := .none }.layout
        .afternoon).outcome (⟨(), []⟩ : Session Unit) =
          .ok ⟨"3:04".toList, [], "3:04 PM".toList⟩ ∧
      "\uef01Wed 3:04\uef00 PM\uef01".toList ≠
        "\uef01Wed".toList ++ Face.separator ++ "3:04".toList := by
  intro formats c
  exact ⟨eq_ok_of_toOption (by decide +kernel), eq_ok_of_toOption (by decide +kernel),
    eq_ok_of_toOption (by decide +kernel), by decide⟩

end ClockFace
