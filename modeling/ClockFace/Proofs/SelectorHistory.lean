import ClockFace.Proofs.AttemptRun
import ClockFace.Run.Selector

/-! # What a selector has been asked

A selector gives for a key what its source gives, whatever it has been asked before: the
patterns that it has loaded and the formats that it keeps are those that it would find and
make anew (`Selector.Sound`). Only the number that it gives to formats depends on its
history.

## Key results

- `make_run`: what making formats gives, and what it leaves
- `outcome_resolve`: what a sound selector gives for a key
- `sound_history`: every history of requests leaves a sound selector
- `resolve_history_eq_anew`: no request can tell a selector from a new one
-/

namespace ClockFace

namespace FormatSource

/-- A pattern compiled in a locale. -/
def format (source : FormatSource) (locale : Locale) (pattern : List Char) :
    Except Failure TimeFormat :=
  (source.compile pattern).map fun compiled => ⟨pattern, locale, compiled⟩

/-- The locale of a key and its pattern, before the AM/PM run is marked. -/
def base (source : FormatSource) (key : PatternKey) : Except Failure (Locale × List Char) := do
  let skeletons ← source.skeletonsOf key.locale
  let locale ← source.locales key.locale
  return (locale, (skeletons.select key.hour24 key.showSeconds).toList)

/-- The formats for a key, for display and for reading aloud. -/
def formats (source : FormatSource) (key : PatternKey) :
    Except Failure (TimeFormat × TimeFormat) := do
  let (locale, base) ← source.base key
  let display ← source.format locale (Selector.displayPattern key.emphasis base)
  let spoken ← source.format locale base
  return (display, spoken)

/-- The formats for a key, from the time patterns of its locale. -/
def formatsFrom (source : FormatSource) (key : PatternKey) (found : Skeletons) :
    Except Failure (TimeFormat × TimeFormat) := do
  let locale ← source.locales key.locale
  let base := (found.select key.hour24 key.showSeconds).toList
  let display ← source.format locale (Selector.displayPattern key.emphasis base)
  let spoken ← source.format locale base
  return (display, spoken)

/-- The time patterns come first, and all else depends on them alone. -/
theorem formats_eq (source : FormatSource) (key : PatternKey) :
    source.formats key = source.skeletonsOf key.locale >>= source.formatsFrom key := by
  simp only [formats, base, formatsFrom, bind, Except.bind]
  cases source.skeletonsOf key.locale with
  | error e => rfl
  | ok found => cases source.locales key.locale <;> rfl

/-- What formats are made of. -/
theorem formats_eq_ok {source : FormatSource} {key : PatternKey} {display spoken : TimeFormat}
    (h : source.formats key = .ok (display, spoken)) :
    ∃ locale base, source.base key = .ok (locale, base) ∧
      source.format locale (Selector.displayPattern key.emphasis base) = .ok display ∧
      source.format locale base = .ok spoken := by
  obtain ⟨⟨locale, base⟩, hbase, h⟩ := of_bind_eq_ok h
  obtain ⟨display', hdisplay, h⟩ := of_bind_eq_ok h
  obtain ⟨spoken', hspoken, h⟩ := of_bind_eq_ok h
  obtain ⟨rfl, rfl⟩ := Prod.mk.inj (Except.ok.inj h)
  exact ⟨locale, base, hbase, hdisplay, hspoken⟩

/-- What the base pattern of a key comes from. -/
theorem base_eq_ok {source : FormatSource} {key : PatternKey} {locale : Locale}
    {base : List Char} (h : source.base key = .ok (locale, base)) :
    ∃ found, source.skeletonsOf key.locale = .ok found ∧
      source.locales key.locale = .ok locale ∧
      base = (found.select key.hour24 key.showSeconds).toList := by
  obtain ⟨found, hfound, h⟩ := of_bind_eq_ok h
  obtain ⟨locale', hlocale, h⟩ := of_bind_eq_ok h
  obtain ⟨rfl, rfl⟩ := Prod.mk.inj (Except.ok.inj h)
  exact ⟨found, hfound, hlocale, rfl⟩

/-- The locale of a key is the one that its tag names. -/
theorem locales_of_base {source : FormatSource} {key : PatternKey} {locale : Locale}
    {base : List Char} (h : source.base key = .ok (locale, base)) :
    source.locales key.locale = .ok locale := by
  obtain ⟨_, _, hlocale, _⟩ := base_eq_ok h
  exact hlocale

end FormatSource

namespace Selector

open Attempt

/-- What a selector remembers is what its source gives. -/
structure Sound (source : FormatSource) (s : Selector) : Prop where
  loaded : ∀ tag found, s.loaded.lookup tag = some found → source.skeletonsOf tag = .ok found
  cached : ∀ key made, s.cache.find? key = some made →
    source.formats key = .ok (made.display, made.spoken)

variable {source : FormatSource} {s : Session Selector}

theorem sound_fresh : Sound source fresh where
  loaded _ _ h := by cases h
  cached key _ h := by
    rw [fresh, Cache.find?_empty] at h
    cases h

/-! ## Patterns -/

/-- The patterns that a sound selector gives are those of its source. -/
theorem outcome_skeletons (h : Sound source s.state) (tag : String) :
    outcome (skeletons source tag) s = source.skeletonsOf tag := by
  cases hsource : source.skeletons with
  | static find => simp only [skeletons, FormatSource.skeletonsOf, hsource, outcome_ofExcept]
  | localeData =>
    simp only [skeletons, hsource, outcome_bind, outcome_state, after_state]
    cases hloaded : s.state.loaded.lookup tag with
    | some found => exact (h.loaded tag found hloaded).symm
    | none =>
      simp only [FormatSource.skeletonsOf, hsource, outcome_bind, outcome_ofExcept, after_ofExcept]
      cases (source.locales tag).map (·.data.skeletons) <;> rfl

/-- Finding patterns leaves a sound selector. -/
theorem sound_after_skeletons (h : Sound source s.state) (tag : String) :
    Sound source (after (skeletons source tag) s).state := by
  cases hsource : source.skeletons with
  | static find =>
    simp only [skeletons, hsource, after_ofExcept]
    exact h
  | localeData =>
    simp only [skeletons, hsource, after_bind, outcome_state, after_state]
    cases s.state.loaded.lookup tag with
    | some found => exact h
    | none =>
      simp only [after_bind, outcome_ofExcept, after_ofExcept]
      cases hfind : (source.locales tag).map (·.data.skeletons) with
      | error e => exact h
      | ok found =>
        refine ⟨fun other found' hother => ?_, h.cached⟩
        -- The tag that was found comes first; any other was loaded before
        change List.lookup other ((tag, found) :: s.state.loaded) = some found' at hother
        rw [List.lookup_cons] at hother
        split at hother
        · next hsame =>
          obtain rfl := Option.some.inj hother
          simp only [FormatSource.skeletonsOf, hsource]
          rw [eq_of_beq hsame, hfind]
        · exact h.loaded other found' hother

/-- Finding patterns leaves the formats that are kept and their number. -/
theorem after_skeletons_frame (source : FormatSource) (tag : String) (s : Session Selector) :
    (after (skeletons source tag) s).state.cache = s.state.cache ∧
      (after (skeletons source tag) s).state.made = s.state.made := by
  cases hsource : source.skeletons with
  | static find => simp only [skeletons, hsource, after_ofExcept, and_self]
  | localeData =>
    simp only [skeletons, hsource, after_bind, outcome_state, after_state]
    cases s.state.loaded.lookup tag with
    | some found => exact ⟨rfl, rfl⟩
    | none =>
      simp only [after_bind, outcome_ofExcept, after_ofExcept]
      cases (source.locales tag).map (·.data.skeletons) <;> exact ⟨rfl, rfl⟩

/-! ## Formats -/

/-- Compiling a pattern. -/
theorem outcome_format (source : FormatSource) (locale : Locale) (pattern : List Char)
    (s : Session Selector) :
    outcome (format source locale pattern) s = source.format locale pattern := by
  simp only [format, outcome_bind, outcome_event, outcome_ofExcept, FormatSource.format]
  cases source.compile pattern <;> rfl

theorem after_format_state (source : FormatSource) (locale : Locale) (pattern : List Char)
    (s : Session Selector) : (after (format source locale pattern) s).state = s.state := by
  simp only [format, after_bind, outcome_event, after_event, outcome_ofExcept, after_ofExcept]
  cases source.compile pattern <;> rfl

/-- Making formats gives those for the time patterns that are found, with the next number,
and keeps them. Where there are none, only the patterns that were loaded are new. -/
theorem make_run (source : FormatSource) (key : PatternKey) (s : Session Selector) :
    outcome (make source key) s =
        ((outcome (skeletons source key.locale) s >>= source.formatsFrom key).map
          fun made => ⟨s.state.made, made.1, made.2⟩) ∧
      (after (make source key) s).state =
        match outcome (skeletons source key.locale) s >>= source.formatsFrom key with
        | .error _ => (after (skeletons source key.locale) s).state
        | .ok (display, spoken) =>
          { (after (skeletons source key.locale) s).state with
            cache := s.state.cache.store key (some ⟨s.state.made, display, spoken⟩)
            made := s.state.made + 1 } := by
  obtain ⟨hcache, hmade⟩ := after_skeletons_frame source key.locale s
  simp only [make, outcome_bind, after_bind]
  cases outcome (skeletons source key.locale) s with
  | error e => exact ⟨rfl, rfl⟩
  | ok found =>
    simp only [outcome_ofExcept, after_ofExcept, outcome_format, FormatSource.formatsFrom, bind,
      Except.bind, pure, Except.pure]
    cases source.locales key.locale with
    | error e => exact ⟨rfl, rfl⟩
    | ok locale =>
      simp only
      -- First the format for display is compiled, then the one for reading aloud
      cases source.format locale (displayPattern key.emphasis
          (found.select key.hour24 key.showSeconds).toList) with
      | error e => exact ⟨rfl, after_format_state ..⟩
      | ok display =>
        simp only
        cases source.format locale (found.select key.hour24 key.showSeconds).toList with
        | error e => exact ⟨rfl, (after_format_state ..).trans (after_format_state ..)⟩
        | ok spoken =>
          simp only [outcome_notice, after_notice, outcome_state, after_state, outcome_change,
            after_change, after_format_state, hcache, hmade]
          exact ⟨rfl, rfl⟩

/-- The patterns that a sound selector finds lead to the formats of its source. -/
theorem formatsFrom_skeletons (h : Sound source s.state) (key : PatternKey) :
    outcome (skeletons source key.locale) s >>= source.formatsFrom key =
      source.formats key := by
  rw [outcome_skeletons h, FormatSource.formats_eq]

/-- A sound selector answers a request with the formats of its source, kept or made anew. -/
theorem outcome_resolve (h : Sound source s.state) (key : PatternKey) :
    (outcome (resolve source key) s).map (fun made => (made.display, made.spoken)) =
      source.formats key := by
  simp only [resolve, outcome_bind, outcome_state, after_state]
  cases hkept : s.state.cache.find? key with
  | some kept => exact (h.cached key kept hkept).symm
  | none =>
    simp only [(make_run source key s).1, formatsFrom_skeletons h]
    cases source.formats key <;> rfl

theorem outcome_resolve_eq_ok {key : PatternKey} {made : TimeFormats} (h : Sound source s.state)
    (hmade : outcome (resolve source key) s = .ok made) :
    source.formats key = .ok (made.display, made.spoken) := by
  rw [← outcome_resolve h, hmade]
  rfl

theorem isOk_outcome_resolve (h : Sound source s.state) (key : PatternKey) :
    (outcome (resolve source key) s).isOk = (source.formats key).isOk := by
  rw [← outcome_resolve h]
  cases outcome (resolve source key) s <;> rfl

/-- Making formats leaves a sound selector, also where it fails. -/
theorem sound_after_make (h : Sound source s.state) (key : PatternKey) :
    Sound source (after (make source key) s).state := by
  have hloaded := sound_after_skeletons h key.locale
  rw [(make_run source key s).2, formatsFrom_skeletons h]
  cases hformats : source.formats key with
  | error e => exact hloaded
  | ok made =>
    refine ⟨hloaded.loaded, fun other kept hkept => ?_⟩
    by_cases hsame : key = other
    · -- The formats under this key are those that were made just now
      subst hsame
      rw [Cache.find?_store_self] at hkept
      obtain rfl := Option.some.inj hkept
      exact hformats
    · -- One set of formats is kept at a time
      rw [Cache.find?_store_of_ne _ _ hsame] at hkept
      cases hkept

/-- A request for formats leaves a sound selector. -/
theorem sound_after_resolve (h : Sound source s.state) (key : PatternKey) :
    Sound source (after (resolve source key) s).state := by
  simp only [resolve, after_bind, outcome_state, after_state]
  cases s.state.cache.find? key with
  | some kept => exact h
  | none => exact sound_after_make h key

/-- Forgetting what is kept leaves a sound selector. -/
theorem sound_after_invalidate (h : Sound source s.state) :
    Sound source (after invalidate s).state := by
  have hempty : Sound source { s.state with cache := Cache.empty } := by
    refine ⟨h.loaded, fun key kept hkept => ?_⟩
    rw [Cache.find?_empty] at hkept
    cases hkept
  simp only [invalidate, after_bind, outcome_state, after_state]
  cases s.state.cachedKey <;> exact hempty

/-! ## Histories -/

/-- What a selector can be asked. -/
inductive Request where
  | resolve (key : PatternKey)
  | invalidate

/-- The session after a request, also when it fails. -/
def Request.after (source : FormatSource) (s : Session Selector) : Request → Session Selector
  | .resolve key => Attempt.after (Selector.resolve source key) s
  | .invalidate => Attempt.after Selector.invalidate s

/-- The session of a selector after some requests, the first one first. -/
def history (source : FormatSource) (requests : List Request) : Session Selector :=
  requests.foldl (Request.after source) ⟨fresh, []⟩

theorem sound_after_request (h : Sound source s.state) (r : Request) :
    Sound source (r.after source s).state := by
  cases r with
  | resolve key => exact sound_after_resolve h key
  | invalidate => exact sound_after_invalidate h

/-- Whatever a selector has been asked, it is sound. -/
theorem sound_history (source : FormatSource) (requests : List Request) :
    Sound source (history source requests).state := by
  -- The induction goes over the requests that are left, from any sound selector
  have hfrom : ∀ s : Session Selector, Sound source s.state →
      Sound source (requests.foldl (Request.after source) s).state := by
    induction requests with
    | nil => exact fun _ h => h
    | cons r rest ih => exact fun s h => ih _ (sound_after_request h r)
  exact hfrom _ sound_fresh

/-- A selector that has not been asked yet, over the source of another one, which remembers
the patterns that it has loaded. -/
def anew (s : Selector) : Selector :=
  { fresh with loaded := s.loaded }

theorem sound_anew {s : Selector} (h : Sound source s) : Sound source s.anew where
  loaded := h.loaded
  cached := sound_fresh.cached

/-- Whatever a selector has been asked, it gives for a key the formats that one gives that
has not been asked yet, or fails as that one does, whatever has been loaded for others. The
formats agree in their patterns, their locale and their compiled fields; they differ in
their number alone. -/
theorem resolve_history_eq_anew (source : FormatSource) (requests others : List Request)
    (key : PatternKey) :
    (outcome (resolve source key) (history source requests)).map
        (fun made => (made.display, made.spoken)) =
      (outcome (resolve source key) ⟨(history source others).state.anew, []⟩).map
        (fun made => (made.display, made.spoken)) := by
  have hanew : Sound source (history source others).state.anew :=
    sound_anew (sound_history source others)
  rw [outcome_resolve (sound_history source requests)]
  exact (outcome_resolve (s := ⟨_, []⟩) hanew key).symm

end Selector

end ClockFace
