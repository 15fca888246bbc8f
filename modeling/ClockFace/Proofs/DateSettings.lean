import ClockFace.Proofs.FaceSource
import ClockFace.Proofs.FaceSpans
import ClockFace.Proofs.RenderEvents

/-! # What the settings of the display reach

The text for reading aloud is the time in the base pattern. This depends on the locale, on the
kind of clock and on whether seconds are shown (`Config.SameTime`), but not on the emphasis,
which only marks the pattern for display, nor on any setting of the date. It does not matter
either which formats a selector keeps, though it keeps those for reading aloud beside the
marked ones, under a key with the emphasis.

The settings of a date that is hidden reach nothing at all: not the face, not whether there is
one, and not the date writer, which is not asked.

## Key results

- `FormatSource.spoken_of_face`: what is read aloud, said without the emphasis and the date
- `FormatSource.face_congr_of_hidden`: a hidden date leaves no trace in a face
- `Selector.face_of_sameTime`: two displays of one time, after any two histories
-/

namespace ClockFace

/-- The configurations are for the same kind of clock in the same locale. -/
structure Config.SameTime (c d : Config) : Prop where
  locale : c.locale = d.locale
  hour24 : c.hour24 = d.hour24
  showSeconds : c.showSeconds = d.showSeconds

/-! ## Reading aloud -/

namespace FormatSource

variable {source : FormatSource} {dates : DateWriter} {c d : Config} {instant : Instant}

/-- The text that is read aloud for a configuration: the time in its base pattern. -/
def spoken (source : FormatSource) (c : Config) (instant : Instant) :
    Except Failure (List Char) := do
  let (locale, base) ← source.base c.patternKey
  let format ← source.format locale base
  format.write instant

/-- Emphasis and date have no part in what is read aloud. -/
theorem spoken_congr (source : FormatSource) (h : c.SameTime d) (instant : Instant) :
    source.spoken c instant = source.spoken d instant := by
  have hbase : source.base c.patternKey = source.base d.patternKey := by
    simp only [base, Config.patternKey, h.locale, h.hour24, h.showSeconds]
  rw [spoken, spoken, hbase]

/-- A face has the text that is read aloud for its configuration. -/
theorem spoken_of_face {f : Face} (h : source.face dates c instant = .ok f) :
    source.spoken c instant = .ok f.spoken := by
  obtain ⟨⟨display, said⟩, hformats, hface⟩ := of_bind_eq_ok h
  obtain ⟨locale, base, hbase, -, hsaid⟩ := formats_eq_ok hformats
  obtain ⟨date, time, text, -, htext, -, rfl⟩ := Face.ofInstant_eq_ok hface
  simp only [spoken, hbase, hsaid, bind, Except.bind]
  exact htext

end FormatSource

/-! ## Hidden dates -/

/-- Where the date is hidden, only the emphasis shows in a face. -/
theorem Config.face_congr_of_hidden {c d : Config} (hc : c.dateVisibility = .none)
    (hd : d.dateVisibility = .none) (h : c.emphasis = d.emphasis)
    (date time spoken : List Char) : c.face date time spoken = d.face date time spoken := by
  have hcomposed {c : Config} (hc : c.dateVisibility = .none) :
      c.composed date time = ⟨time, []⟩ := by
    rw [composed, arrange_hidden hc, dateSpans, hc]
  rw [face, face, hcomposed hc, hcomposed hd, h]

/-- A date that is hidden is not written. -/
theorem Face.writeTexts_of_hidden {c d : Config} (hc : c.dateVisibility = .none)
    (hd : d.dateVisibility = .none) (dates others : DateWriter) (formats : TimeFormats)
    (instant : Instant) :
    writeTexts dates formats c instant = writeTexts others formats d instant := by
  simp only [writeTexts, writeShownDate, if_pos hc, if_pos hd]

/-- A hidden date leaves no trace in a face, nor in whether there is one. -/
theorem FormatSource.face_congr_of_hidden {source : FormatSource} {c d : Config}
    (h : c.SameTime d) (hemphasis : c.emphasis = d.emphasis) (hc : c.dateVisibility = .none)
    (hd : d.dateVisibility = .none) (dates others : DateWriter) (instant : Instant) :
    source.face dates c instant = source.face others d instant := by
  have hkey : c.patternKey = d.patternKey := by
    simp only [Config.patternKey, h.locale, h.hour24, h.showSeconds, hemphasis]
  have hface (t : Face.Texts) :
      c.face t.date t.time t.spoken = d.face t.date t.time t.spoken :=
    Config.face_congr_of_hidden hc hd hemphasis ..
  simp only [face, hkey, Face.ofInstant_eq_map, Face.writeTexts_of_hidden hc hd dates others, hface]

/-! ## Displays -/

namespace Selector

open Attempt

/-- For a hidden date the date writer is not asked. -/
theorem askedDates_after_face {c : Config} (hc : c.dateVisibility = .none)
    (source : FormatSource) (dates : DateWriter) (instant : Instant) (s : Session Selector) :
    (after (face source dates c instant) s).askedDates = s.askedDates := by
  have hhidden : c.layout.showsDate = false := by
    simp only [Layout.showsDate, Config.layout, hc]
  have hsilent : Silent Event.askedDate? (face source dates c instant) := by
    refine silent_bind (silent_resolve (fun _ => rfl) (fun _ => rfl) source _) fun formats => ?_
    refine silent_renderFace (fun hshown => ?_) dates formats instant
    rw [hhidden] at hshown
    cases hshown
  exact hsilent s

/-- What is read aloud, and a display without a date, depend on nothing that concerns the date.

Two configurations for the same time have their faces made by two selectors over one source,
whatever each has been asked before, and with date writers of their own. If there are two
faces, the same is read aloud for both. If neither shows a date and both have one emphasis, the
faces are the same, or fail for the same reason, and no date writer is asked for anything. -/
theorem face_of_sameTime (source : FormatSource) (requests others : List Request) {c d : Config}
    (h : c.SameTime d) (datesC datesD : DateWriter) (instant : Instant) :
    let s := history source requests
    let t := history source others
    let faceC := face source datesC c instant
    let faceD := face source datesD d instant
    (∀ f g, outcome faceC s = .ok f → outcome faceD t = .ok g → f.spoken = g.spoken) ∧
      (c.dateVisibility = .none → d.dateVisibility = .none → c.emphasis = d.emphasis →
        outcome faceC s = outcome faceD t ∧
          (after faceC s).askedDates = s.askedDates ∧
          (after faceD t).askedDates = t.askedDates) := by
  intro s t faceC faceD
  have hfaceC : outcome faceC s = source.face datesC c instant :=
    outcome_face (sound_history source requests) datesC c instant
  have hfaceD : outcome faceD t = source.face datesD d instant :=
    outcome_face (sound_history source others) datesD d instant
  rw [hfaceC, hfaceD]
  refine ⟨fun f g hf hg => ?_, fun hc hd hemphasis => ⟨?_, ?_, ?_⟩⟩
  · have hspoken := source.spoken_congr h instant
    rw [FormatSource.spoken_of_face hf, FormatSource.spoken_of_face hg] at hspoken
    exact Except.ok.inj hspoken
  · exact FormatSource.face_congr_of_hidden h hemphasis hc hd datesC datesD instant
  · exact askedDates_after_face hc source datesC instant s
  · exact askedDates_after_face hd source datesD instant t

/-- Two faces for one time, with the date on either side and the AM/PM run hidden in one, after
different histories: the same is read aloud. Without the date a pattern for dates that is none
and a date writer that always fails do no harm. -/
theorem face_of_sameTime_wednesday :
    let source : FormatSource :=
      .ofSkeletons (.table [] (some ⟨"HH:mm:ss", "h:mm:ss a", "HH:mm", "h:mm a"⟩))
    let failing : DateWriter := fun _ _ _ => .error .dateRange
    let c : Config := { dateVisibility := .small, dateCase := .upper }
    let d : Config := { c with emphasis := .small, datePosition := .right, dateCase := .lower }
    let e : Config := { d with dateVisibility := .none, dateFormat := "bbbb" }
    let hidden : Config := { emphasis := .small }
    let s := history source [.resolve c.patternKey, .resolve d.patternKey, .invalidate]
    let t := history source [.resolve d.patternKey]
    let shown (c : Config) (dates : DateWriter) (s : Session Selector) :=
      outcome (face source dates c .afternoon) s
    c.SameTime d ∧
      (∃ f g, shown c DateText.write s = .ok f ∧ shown d DateText.write t = .ok g ∧
        f.text = "WED 3:04".toList ∧ g.text = "3:04 PM wed".toList ∧ f.spoken = g.spoken) ∧
      e.SameTime hidden ∧ (shown e failing s).isOk = true ∧
      shown e failing s = shown hidden DateText.write t ∧
      (after (face source failing e .afternoon) s).askedDates = s.askedDates := by
  intro source failing c d e hidden s t shown
  have hsame : c.SameTime d := ⟨rfl, rfl, rfl⟩
  have hsameHidden : e.SameTime hidden := ⟨rfl, rfl, rfl⟩
  have hf : (shown c DateText.write s).toOption.map Face.text = some "WED 3:04".toList := by
    decide +kernel
  have hg : (shown d DateText.write t).toOption.map Face.text = some "3:04 PM wed".toList := by
    decide +kernel
  obtain ⟨f, hf, hftext⟩ := Option.map_eq_some_iff.1 hf
  obtain ⟨g, hg, hgtext⟩ := Option.map_eq_some_iff.1 hg
  have hf := eq_ok_of_toOption hf
  have hg := eq_ok_of_toOption hg
  have hspoken := (face_of_sameTime source [.resolve c.patternKey, .resolve d.patternKey,
    .invalidate] [.resolve d.patternKey] hsame DateText.write DateText.write .afternoon).1 f g hf hg
  obtain ⟨hboth, hasked, -⟩ := (face_of_sameTime source [.resolve c.patternKey,
    .resolve d.patternKey, .invalidate] [.resolve d.patternKey] hsameHidden failing DateText.write
      .afternoon).2 rfl rfl rfl
  exact ⟨hsame, ⟨f, g, hf, hg, hftext, hgtext, hspoken⟩, hsameHidden, by decide +kernel, hboth,
    hasked⟩

end Selector

end ClockFace
