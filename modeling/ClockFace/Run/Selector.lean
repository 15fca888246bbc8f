import ClockFace.Locale.Resolve
import ClockFace.Pattern.Basic
import ClockFace.Pattern.Marker
import ClockFace.Run.Attempt
import ClockFace.Run.Cache

/-! # Selecting time formats

For a locale, a kind of clock and an emphasis, a selector picks the locale's time pattern and compiles
two formats: one for display, in which the AM/PM run is marked unless it is shown as it is, and one
for reading aloud. It keeps the formats that it made last, and gives the same ones back as long as
the same key is asked for. -/

namespace ClockFace

/-- A compiled pattern in a locale. -/
structure TimeFormat where
  pattern : List Char
  locale : Locale
  compiled : Pattern

namespace TimeFormat

/-- The time of an instant in a format. -/
def write (f : TimeFormat) (instant : Instant) : Except Failure (List Char) :=
  f.compiled.write f.locale instant

end TimeFormat

/-- The formats for one key. `serial` numbers the formats that a selector makes, so that formats
made anew differ from formats kept. -/
structure TimeFormats where
  serial : Nat
  display : TimeFormat
  spoken : TimeFormat

/-- Where time patterns come from. -/
inductive SkeletonSource where
  /-- The data of the locales, remembered once they are loaded. -/
  | localeData
  /-- Whatever depends on the tag alone, which is asked anew each time. -/
  | static (find : String → Except Failure Skeletons)

/-- A table of tags, and the patterns for tags that it lacks. -/
def SkeletonSource.table (entries : List (String × Skeletons)) (otherwise : Option Skeletons) :
    SkeletonSource :=
  .static fun tag =>
    match entries.lookup tag <|> otherwise with
    | some s => .ok s
    | none => .error (.noPatterns tag)

/-- How tags lead to locales. -/
abbrev LocaleSource := String → Except Failure Locale

/-- What a selector works with. -/
structure FormatSource where
  skeletons : SkeletonSource
  locales : LocaleSource
  compile : List Char → Except Failure Pattern

namespace FormatSource

/-- The source that compiles patterns as they are read. -/
def ofLocales (locales : LocaleSource) (skeletons : SkeletonSource) : FormatSource where
  skeletons := skeletons
  locales := locales
  compile := Pattern.compile

/-- The source over the locales that have data here. -/
abbrev ofSkeletons (skeletons : SkeletonSource) : FormatSource :=
  ofLocales Locale.ofTag skeletons

/-- The time patterns of a locale tag. -/
def skeletonsOf (source : FormatSource) (tag : String) : Except Failure Skeletons :=
  match source.skeletons with
  | .localeData => (source.locales tag).map (·.data.skeletons)
  | .static find => find tag

end FormatSource

/-- The state of a selector: the patterns that were loaded, the formats that are kept and the number
of formats made so far. -/
structure Selector where
  loaded : List (String × Skeletons)
  cache : Cache PatternKey TimeFormats
  made : Nat

namespace Selector

/-- A selector that has not been asked yet. -/
def fresh : Selector :=
  ⟨[], Cache.empty, 0⟩

/-- The key of the formats that are kept. -/
def cachedKey (s : Selector) : Option PatternKey :=
  s.cache.lastKey

/-- Drop the formats that are kept. -/
def invalidate : Attempt Selector Unit := do
  match (← Attempt.state).cachedKey with
  | none => pure ()
  | some key => Attempt.notice (.formatsDropped key)
  Attempt.change fun s => { s with cache := Cache.empty }

/-- The time patterns of a locale tag. The data of a locale are loaded once. -/
def skeletons (source : FormatSource) (tag : String) : Attempt Selector Skeletons :=
  match source.skeletons with
  | .static find => Attempt.ofExcept (find tag)
  | .localeData => do
    match (← Attempt.state).loaded.lookup tag with
    | some s => return s
    | none =>
      let s ← Attempt.ofExcept ((source.locales tag).map (·.data.skeletons))
      Attempt.notice (.skeletonsLoaded tag s)
      Attempt.change fun selector => { selector with loaded := (tag, s) :: selector.loaded }
      return s

/-- The pattern for display: the AM/PM run is marked unless it is shown as it is. -/
def displayPattern (emphasis : Emphasis) (base : List Char) : List Char :=
  match emphasis with
  | .normal => base
  | .none | .small => Marker.inject base

/-- Compile a pattern for a locale. -/
def format (source : FormatSource) (locale : Locale) (pattern : List Char) :
    Attempt Selector TimeFormat := do
  Attempt.event (.compiled pattern)
  let compiled ← Attempt.ofExcept (source.compile pattern)
  return ⟨pattern, locale, compiled⟩

/-- Make the formats for a key and keep them. -/
def make (source : FormatSource) (key : PatternKey) : Attempt Selector TimeFormats := do
  -- The patterns come first: a table may hold patterns for a tag that names no locale.
  let skeletons ← skeletons source key.locale
  let base := (skeletons.select key.hour24 key.showSeconds).toList
  let locale ← Attempt.ofExcept (source.locales key.locale)
  let display ← format source locale (displayPattern key.emphasis base)
  let spoken ← format source locale base
  Attempt.notice (.formatsCompiled key base)
  let formats : TimeFormats := ⟨(← Attempt.state).made, display, spoken⟩
  Attempt.change fun s =>
    { s with cache := s.cache.store key (some formats), made := s.made + 1 }
  return formats

/-- The formats for a key: those that are kept, or new ones. -/
def resolve (source : FormatSource) (key : PatternKey) : Attempt Selector TimeFormats := do
  match (← Attempt.state).cache.find? key with
  | some formats => return formats
  | none => make source key

end Selector

end ClockFace
