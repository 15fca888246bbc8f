import ClockFace.Proofs.FaceClosed
import ClockFace.Proofs.SelectorHistory

/-! # Faces from a source of formats

What a sound selector has been asked before does not show in a face: it is the one for the
configuration and the instant with the formats of the source (`FormatSource.face`). Such a
face is made of what the pattern for display and the base pattern write. The base pattern
has no markers if the patterns of the source have none (`FormatSource.Free`).

## Key results

- `FormatSource.face_of_answer`: formats with any number make the same face
- `FormatSource.face_eq_ok`, `FormatSource.face_of_written`: a face of what its patterns write
- `Selector.outcome_face`: the face of a sound selector
-/

namespace ClockFace

/-! ## Patterns without markers -/

/-- The time patterns hold no markers. -/
def Skeletons.Free (s : Skeletons) : Prop :=
  ∀ hour24 showSeconds, Marker.Free (s.select hour24 showSeconds).toList

instance (s : Skeletons) : Decidable s.Free :=
  inferInstanceAs
    (Decidable (∀ hour24 showSeconds, Marker.Free (s.select hour24 showSeconds).toList))

/-- All time patterns that the source has are free of markers. -/
def FormatSource.Free (source : FormatSource) : Prop :=
  ∀ tag found, source.skeletonsOf tag = .ok found → found.Free

/-- A table is free of markers if its patterns are. -/
theorem FormatSource.free_table (locales : LocaleSource) {entries : List (String × Skeletons)}
    {otherwise : Option Skeletons} (hentries : ∀ e ∈ entries, e.2.Free)
    (hotherwise : ∀ s ∈ otherwise, s.Free) :
    (ofLocales locales (.table entries otherwise)).Free := by
  intro tag found hfind
  simp only [skeletonsOf, ofLocales, SkeletonSource.table, Option.orElse_eq_orElse,
    Option.orElse_eq_or] at hfind
  split at hfind
  · next s hs =>
    obtain rfl := Except.ok.inj hfind
    obtain hentry | ⟨-, hrest⟩ := Option.or_eq_some_iff.1 hs
    · obtain ⟨before, behind, hsplit, -⟩ := List.lookup_eq_some_iff.1 hentry
      refine hentries (tag, s) ?_
      rw [hsplit]
      exact List.mem_append_right _ List.mem_cons_self
    · exact hotherwise s hrest
  · cases hfind

/-- The base pattern of a key is one of the source. -/
theorem FormatSource.free_of_base {source : FormatSource} (hfree : source.Free) {key : PatternKey}
    {locale : Locale} {base : List Char} (h : source.base key = .ok (locale, base)) :
    Marker.Free base := by
  obtain ⟨found, hfound, -, rfl⟩ := base_eq_ok h
  exact hfree key.locale found hfound key.hour24 key.showSeconds

/-! ## Faces -/

/-- The face of an instant with the formats that a source has for a configuration. -/
def FormatSource.face (source : FormatSource) (dates : DateWriter) (c : Config)
    (instant : Instant) : Except Failure Face := do
  let (display, spoken) ← source.formats c.patternKey
  Face.ofInstant dates ⟨0, display, spoken⟩ c.layout instant

/-- The number of the formats does not show in the face. -/
theorem FormatSource.face_of_answer {source : FormatSource} {c : Config}
    {answer : Except Failure TimeFormats}
    (h : answer.map (fun made => (made.display, made.spoken)) = source.formats c.patternKey)
    (dates : DateWriter) (instant : Instant) :
    (answer >>= fun made => Face.ofInstant dates made c.layout instant) =
      source.face dates c instant := by
  rw [face, ← h]
  cases answer <;> rfl

section Written

variable {locales : LocaleSource} {skeletons : SkeletonSource} {dates : DateWriter} {c : Config}
  {instant : Instant}

/-- A format writes what its pattern writes. -/
theorem FormatSource.write_of_format {locale : Locale} {pattern : List Char} {f : TimeFormat}
    (h : (ofLocales locales skeletons).format locale pattern = .ok f) (instant : Instant) :
    f.write instant = Pattern.writeText pattern locale instant := by
  obtain ⟨p, hcompile, rfl⟩ := of_map_eq_ok h
  have hcompile : Pattern.compile pattern = .ok p := hcompile
  rw [Pattern.writeText, hcompile]
  rfl

/-- A pattern that can be written has a format. -/
theorem FormatSource.exists_format_of_writeText (locales : LocaleSource)
    (skeletons : SkeletonSource) {locale : Locale} {pattern text : List Char}
    (h : Pattern.writeText pattern locale instant = .ok text) :
    ∃ f, (ofLocales locales skeletons).format locale pattern = .ok f := by
  obtain ⟨p, hcompile, -⟩ := of_bind_eq_ok h
  have hmade : (ofLocales locales skeletons).format locale pattern =
      (Pattern.compile pattern).map fun compiled => ⟨pattern, locale, compiled⟩ := rfl
  rw [hmade, hcompile]
  exact ⟨_, rfl⟩

/-- A face is made of what the pattern for display and the base pattern write. -/
theorem FormatSource.face_eq_ok {f : Face}
    (h : (ofLocales locales skeletons).face dates c instant = .ok f) :
    ∃ locale base date time spoken,
      (ofLocales locales skeletons).base c.patternKey = .ok (locale, base) ∧
      Pattern.writeText (Selector.displayPattern c.emphasis base) locale instant = .ok time ∧
      Pattern.writeText base locale instant = .ok spoken ∧
      (c.dateVisibility ≠ .none → c.layout.writeDate dates instant = .ok date) ∧
      f = c.face date time spoken := by
  obtain ⟨⟨display, said⟩, hformats, h⟩ := of_bind_eq_ok h
  obtain ⟨date, time, spoken, htime, hspoken, hdate, hface⟩ := Face.ofInstant_eq_ok h
  obtain ⟨locale, base, hbase, hdisplay, hsaid⟩ := formats_eq_ok hformats
  rw [write_of_format hdisplay] at htime
  rw [write_of_format hsaid] at hspoken
  exact ⟨locale, base, date, time, spoken, hbase, htime, hspoken, hdate, hface⟩

/-- What the patterns write makes a face. -/
theorem FormatSource.face_of_written {locale : Locale} {base date time spoken : List Char}
    (hbase : (ofLocales locales skeletons).base c.patternKey = .ok (locale, base))
    (htime : Pattern.writeText (Selector.displayPattern c.emphasis base) locale instant = .ok time)
    (hspoken : Pattern.writeText base locale instant = .ok spoken)
    (hdate : c.dateVisibility ≠ .none → c.layout.writeDate dates instant = .ok date) :
    (ofLocales locales skeletons).face dates c instant = .ok (c.face date time spoken) := by
  obtain ⟨display, hdisplay⟩ := exists_format_of_writeText locales skeletons htime
  obtain ⟨said, hsaid⟩ := exists_format_of_writeText locales skeletons hspoken
  rw [← write_of_format hdisplay] at htime
  rw [← write_of_format hsaid] at hspoken
  have hformats : (ofLocales locales skeletons).formats c.patternKey = .ok (display, said) := by
    have hshown : c.patternKey.emphasis = c.emphasis := rfl
    simp only [formats, hbase, hshown, bind, Except.bind, hdisplay, hsaid]
    rfl
  rw [face, hformats]
  exact Face.ofInstant_layout htime hspoken hdate

end Written

/-- A face from what a selector gives for a configuration. -/
def Selector.face (source : FormatSource) (dates : DateWriter) (c : Config) (instant : Instant) :
    Attempt Selector Face := do
  let formats ← Selector.resolve source c.patternKey
  renderFace dates formats c.layout instant

/-- A sound selector gives the face of its source. -/
theorem Selector.outcome_face {source : FormatSource} {s : Session Selector}
    (h : Selector.Sound source s.state) (dates : DateWriter) (c : Config) (instant : Instant) :
    (Selector.face source dates c instant).outcome s = source.face dates c instant := by
  rw [← FormatSource.face_of_answer (outcome_resolve h c.patternKey), Selector.face,
    Attempt.outcome_bind]
  simp only [renderFace_outcome]
  cases (Selector.resolve source c.patternKey).outcome s <;> rfl

end ClockFace
