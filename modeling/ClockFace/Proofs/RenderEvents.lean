import ClockFace.Proofs.AttemptRun
import ClockFace.Run.Render

/-! # What rendering asks for

Of its surroundings, finding formats asks the compiler alone, and showing an instant asks
the date writer alone, if it asks anything. Both are said for whatever is read off the
events of a session, such as the zones in which the time was asked for
(`Session.askedZones`) or the dates that were asked for (`Session.askedDates`).

## Key results

- `Selector.silent_resolve`: finding formats asks nothing but the compiler
- `silent_renderFace`: showing an instant asks nothing but the date writer
-/

namespace ClockFace

/-! ## Reading events -/

/-- The zone in which the time was asked for, if the event is that. -/
def Event.askedZone? : Event → Option (Option Zone)
  | .askedTime zone => some zone
  | _ => none

/-- The zones in which the clock source was asked for the time, the first one first. -/
def Session.askedZones {σ : Type} (s : Session σ) : List (Option Zone) :=
  s.events.filterMap Event.askedZone?

/-- The pattern and the locale for which a date was asked for, if the event is that. -/
def Event.askedDate? : Event → Option (String × String)
  | .askedDate pattern locale => some (pattern, locale)
  | _ => none

/-- The patterns and the locales that the date writer was asked for, the first ones first. -/
def Session.askedDates {σ : Type} (s : Session σ) : List (String × String) :=
  s.events.filterMap Event.askedDate?

open Attempt

variable {β : Type} {f : Event → Option β}

/-! ## Formats -/

namespace Selector

/-- Finding patterns notes at most that they were loaded. -/
theorem silent_skeletons (hnoted : ∀ n, f (.noted n) = none) (source : FormatSource)
    (tag : String) : Silent f (skeletons source tag) := by
  cases hsource : source.skeletons with
  | static find =>
    simp only [skeletons, hsource]
    exact silent_ofExcept _
  | localeData =>
    simp only [skeletons, hsource]
    refine silent_bind silent_state fun selector => ?_
    split
    · exact silent_pure _
    · refine silent_bind (silent_ofExcept _) fun found => ?_
      exact silent_bind (silent_notice (hnoted _)) fun _ =>
        silent_bind (silent_change _) fun _ => silent_pure _

theorem silent_format (hcompiled : ∀ pattern, f (.compiled pattern) = none)
    (source : FormatSource) (locale : Locale) (pattern : List Char) :
    Silent f (format source locale pattern) :=
  silent_bind (silent_event (hcompiled pattern)) fun _ =>
    silent_bind (silent_ofExcept _) fun _ => silent_pure _

/-- Finding formats asks nothing but the compiler. -/
theorem silent_resolve (hnoted : ∀ n, f (.noted n) = none)
    (hcompiled : ∀ pattern, f (.compiled pattern) = none) (source : FormatSource)
    (key : PatternKey) : Silent f (resolve source key) := by
  refine silent_bind silent_state fun selector => ?_
  split
  · exact silent_pure _
  · -- The formats are not kept, and are made one part after the other
    refine silent_bind (silent_skeletons hnoted _ _) fun found => ?_
    refine silent_bind (silent_ofExcept _) fun locale => ?_
    refine silent_bind (silent_format hcompiled _ _ _) fun display => ?_
    refine silent_bind (silent_format hcompiled _ _ _) fun spoken => ?_
    refine silent_bind (silent_notice (hnoted _)) fun _ => ?_
    exact silent_bind silent_state fun _ => silent_bind (silent_change _) fun _ => silent_pure _

end Selector

/-! ## Faces -/

/-- Showing an instant asks nothing but the date writer, and only for a date that is shown. -/
theorem silent_renderFace {σ : Type} {layout : Layout}
    (hdate : layout.showsDate = true → f (.askedDate layout.datePattern layout.locale) = none)
    (dates : DateWriter) (formats : TimeFormats) (instant : Instant) :
    Silent f (renderFace dates formats layout instant : Attempt σ Face) := by
  refine silent_bind (silent_ofExcept _) fun time => ?_
  refine silent_bind (silent_ofExcept _) fun spoken => ?_
  dsimp only
  split
  · next hshown => exact silent_bind (silent_event (hdate hshown)) fun _ => silent_ofExcept _
  · exact silent_ofExcept _

end ClockFace
