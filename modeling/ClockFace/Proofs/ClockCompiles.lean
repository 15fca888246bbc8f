import ClockFace.Proofs.RejectedSetting
import ClockFace.Proofs.RenderEvents
import ClockFace.Proofs.SelectorLog

/-! # When a clock compiles

Only a tick gives patterns to the compiler, and only if the selector does not keep the formats
that it needs. What the selector keeps can be told from the run: it is the formats of the last
tick that got any, unless the locale has changed since, there and back included. A tick that
fails after it has got its formats counts, and one that fails before or while it gets them
does not. Nothing else counts at all: neither the zone, nor the date, nor the place of the
clock, nor the demo state.

`Clock.Track` notes what each command of a run did about the formats (`Clock.Effect`), the last
one first, and `Track.IsCurrent` reads off it whether the next tick finds its formats. Each
command has surroundings of its own, so that patterns may be found or compile at one time and
not at another.

## Key results

- `compiled_after_perform`: only ticks compile
- `render_run`: what a tick leaves is what getting its formats leaves
- `faithful_ofTurns`: the selector keeps what the run says
- `compiled_turns`: when a tick compiles, and when it does not
-/

namespace ClockFace

open Attempt

namespace Cache

variable {κ υ : Type} [BEq κ] [LawfulBEq κ]

/-- Whatever is found is all that there is. -/
theorem eq_ofOption_of_find? {c : Cache κ υ} {key : κ} {value : υ}
    (h : c.find? key = some value) : c = ofOption (some (key, value)) := by
  obtain ⟨lastKey, kept⟩ := c
  rw [find?] at h
  split at h
  · next hkey =>
    obtain rfl := eq_of_beq hkey
    obtain rfl := h
    rfl
  · cases h

theorem isSome_find?_ofOption_iff {key other : κ} {value : υ} :
    ((ofOption (some (key, value))).find? other).isSome = true ↔ key = other := by
  rw [Option.isSome_iff_exists]
  simp [find?_ofOption_eq_some_iff]

end Cache

/-! ## Commands that compile nothing -/

namespace Selector

theorem silent_invalidate {β : Type} {f : Event → Option β} (hnoted : ∀ n, f (.noted n) = none) :
    Silent f invalidate := by
  intro s
  simp only [invalidate, after_bind, outcome_state, after_state]
  cases s.state.cachedKey with
  | none => rfl
  | some key => exact silent_notice (hnoted _) s

theorem cache_after_invalidate (s : Session Selector) :
    (after invalidate s).state.cache = Cache.empty := by
  simp only [invalidate, after_bind, outcome_state, after_state]
  cases s.state.cachedKey <;> rfl

/-- A request that is answered leaves the formats for its key and for no other one. It compiles
the pattern for display and the one for reading aloud, unless it finds its formats kept. -/
theorem resolve_of_ok {source : FormatSource} {key : PatternKey} {s : Session Selector}
    {made : TimeFormats} (h : outcome (resolve source key) s = .ok made) :
    (∀ other, ((after (resolve source key) s).state.cache.find? other).isSome = true ↔
        key = other) ∧
      (after (resolve source key) s).compiled = s.compiled ++
        if (s.state.cache.find? key).isSome = true then []
        else [made.display.pattern, made.spoken.pattern] := by
  cases hkept : s.state.cache.find? key with
  | some kept =>
    obtain ⟨-, hafter⟩ := resolve_of_kept source hkept
    rw [hafter, Cache.eq_ofOption_of_find? hkept]
    exact ⟨fun _ => Cache.isSome_find?_ofOption_iff, (List.append_nil _).symm⟩
  | none =>
    obtain ⟨houtcome, hafter⟩ := resolve_of_not_kept source hkept
    rw [houtcome] at h
    obtain ⟨-, -, -, -, hcompiled⟩ := make_ok h
    rw [hafter, (state_make_of_ok h).2.1]
    exact ⟨fun _ => Cache.isSome_find?_ofOption_iff, hcompiled⟩

end Selector

namespace Clock

section Silent

variable {β : Type} {f : Event → Option β} (hnoted : ∀ n, f (.noted n) = none)
  (hasked : ∀ zone, f (.askedTime zone) = none)

include hnoted

/-- A new configuration is put into effect and noted, and nothing is asked. -/
theorem silent_updateConfig (zones : ZoneTable) (config : Config) :
    Silent f (updateConfig zones config) := by
  have hfinish (zone : Option Zone) (previous : Clock) : Silent f (do
      Attempt.change fun c => { c with config, zone }
      if config.locale ≠ previous.config.locale then
        onSelector Selector.invalidate
      Attempt.notice (.configUpdated config)) := by
    refine silent_bind (silent_change _) fun _ => ?_
    dsimp only
    split
    · exact silent_bind (silent_zoom (Selector.silent_invalidate hnoted)) fun _ =>
        silent_notice (hnoted _)
    · exact silent_notice (hnoted _)
  refine silent_bind silent_state fun previous => ?_
  by_cases hsame : config.timezone ≠ previous.config.timezone
  · simp only [if_pos hsame]
    exact silent_bind (silent_ofExcept _) fun zone => hfinish zone previous
  · simp only [if_neg hsame]
    exact hfinish previous.zone previous

theorem silent_changeLocale (zones : ZoneTable) (tag : String) :
    Silent f (changeLocale zones tag) := by
  refine silent_bind silent_state fun c => ?_
  dsimp only
  split
  · exact silent_updateConfig hnoted zones _
  · exact silent_pure _

theorem silent_changeTimezone (zones : ZoneTable) (name : Option String) :
    Silent f (changeTimezone zones name) :=
  silent_bind silent_state fun _ => silent_updateConfig hnoted zones _

omit hnoted in
include hasked in
/-- Asking for the time asks for nothing else. -/
theorem silent_askTime (around : Surroundings) : Silent f (askTime around) :=
  silent_bind silent_state fun _ => silent_bind (silent_event (hasked _)) fun _ =>
    silent_ofExcept _

omit hnoted in
include hasked in
theorem silent_currentInstant (around : Surroundings) : Silent f (currentInstant around) := by
  refine silent_bind silent_state fun clock => ?_
  split
  · exact silent_pure _
  · exact silent_askTime hasked around

include hasked in
/-- Demo commands ask for nothing but the time. -/
theorem silent_demoCommand (around : Surroundings) (name : String) (args : Config.Fields) :
    Silent f (demoCommand around name args) := by
  refine silent_bind silent_state fun clock => ?_
  have hset (base : Instant) : Silent f (do
      let instant ← Attempt.ofExcept (demoInstant around.localZone clock base args)
      Attempt.change fun c => { c with pinned := some instant }
      Attempt.notice (.demoClockSet instant) : Attempt Clock Unit) :=
    silent_bind (silent_ofExcept _) fun _ =>
      silent_bind (silent_change _) fun _ => silent_notice (hnoted _)
  split
  · refine silent_bind (silent_change _) fun _ => ?_
    refine silent_bind (silent_askTime hasked around) fun _ => ?_
    exact silent_bind (silent_change _) fun _ => silent_notice (hnoted _)
  · split
    · exact silent_bind (silent_change _) fun _ => silent_notice (hnoted _)
    · split
      · cases clock.pinned with
        | some i => exact silent_bind (silent_pure i) hset
        | none => exact silent_bind (silent_askTime hasked around) hset
      · exact silent_pure _

end Silent

/-- Only ticks give patterns to the compiler. -/
theorem compiled_after_perform (around : Surroundings) {command : Command}
    (h : ∀ time, command ≠ .render time) (s : Session Clock) :
    (after (perform around command) s).compiled = s.compiled := by
  have hsilent : Silent Event.pattern? (perform around command) := by
    cases command with
    | updateConfig config =>
      exact silent_bind (silent_updateConfig (fun _ => rfl) _ config) fun _ => silent_pure _
    | changeLocale tag =>
      exact silent_bind (silent_changeLocale (fun _ => rfl) _ tag) fun _ => silent_pure _
    | changeTimezone name =>
      exact silent_bind (silent_changeTimezone (fun _ => rfl) _ name) fun _ => silent_pure _
    | demo name args =>
      exact silent_bind (silent_demoCommand (fun _ => rfl) (fun _ => rfl) around name args)
        fun _ => silent_pure _
    | render time => exact absurd rfl (h time)
  exact hsilent s

/-! ## What the selector keeps through them -/

/-- Where a configuration is taken, the formats stay unless the locale is new. -/
theorem updateConfig_of_ok {zones : ZoneTable} {config : Config} {s : Session Clock}
    (h : outcome (updateConfig zones config) s = .ok ()) :
    (after (updateConfig zones config) s).state.config = config ∧
      (after (updateConfig zones config) s).state.selector.cache =
        if config.locale ≠ s.state.config.locale then Cache.empty
        else s.state.selector.cache := by
  have hfinish (zone : Option Zone) :
      let finished := after (do
        Attempt.change fun c => { c with config, zone }
        if config.locale ≠ s.state.config.locale then
          onSelector Selector.invalidate
        Attempt.notice (.configUpdated config)) s
      finished.state.config = config ∧ finished.state.selector.cache =
        if config.locale ≠ s.state.config.locale then Cache.empty
        else s.state.selector.cache := by
    dsimp only
    rw [after_bind, outcome_change]
    dsimp only
    split
    · rw [after_bind, onSelector, outcome_zoom, outcome_invalidate]
      exact ⟨rfl, Selector.cache_after_invalidate _⟩
    · exact ⟨rfl, rfl⟩
  rw [updateConfig, outcome_bind, outcome_state, after_state] at h
  rw [updateConfig, after_bind, outcome_state, after_state]
  dsimp only at h ⊢
  by_cases hsame : config.timezone ≠ s.state.config.timezone
  · simp only [if_pos hsame, outcome_bind, after_bind, outcome_ofExcept, after_ofExcept] at h ⊢
    cases hzone : ZoneName.resolve zones config.timezone with
    | error e =>
      rw [hzone] at h
      cases h
    | ok zone => exact hfinish zone
  · simp only [if_neg hsame]
    exact hfinish s.state.zone

/-- All but ticks leave the formats that are kept, unless they change the locale and do not fail:
then they leave none. -/
theorem cache_after_perform (around : Surroundings) {command : Command}
    (h : ∀ time, command ≠ .render time) (s : Session Clock) :
    let t := after (perform around command) s
    t.state.selector.cache =
      if (outcome (perform around command) s).isOk = true ∧
          t.state.config.locale ≠ s.state.config.locale then Cache.empty
      else s.state.selector.cache := by
  have hupdate (config : Config) :
      let update := updateConfig around.zones config
      (after update s).state.selector.cache =
        if (outcome update s).isOk = true ∧
            (after update s).state.config.locale ≠ s.state.config.locale
        then Cache.empty else s.state.selector.cache := by
    intro update
    cases hresult : outcome update s with
    | error e =>
      rw [after_updateConfig_of_error hresult]
      exact (if_neg fun hok => Bool.noConfusion hok.1).symm
    | ok _ =>
      obtain ⟨hconfig, hcache⟩ := updateConfig_of_ok hresult
      rw [hconfig, hcache]
      simp only [Except.isOk, Except.toBool, true_and]
  have hsame {t : Session Clock} {ok : Prop} [Decidable ok]
      (hstate : t.state.config = s.state.config ∧ t.state.selector = s.state.selector) :
      t.state.selector.cache =
        if ok ∧ t.state.config.locale ≠ s.state.config.locale then Cache.empty
        else s.state.selector.cache := by
    rw [hstate.1, hstate.2, if_neg fun hboth => hboth.2 rfl]
  cases command with
  | updateConfig config =>
    simp only [perform, after_bind_pure, outcome_bind_pure, isOk_map]
    exact hupdate config
  | changeLocale tag =>
    simp only [perform, after_bind_pure, outcome_bind_pure, isOk_map, changeLocale]
    rw [outcome_bind, after_bind, outcome_state, after_state]
    dsimp only
    split
    · exact hupdate _
    · exact hsame ⟨rfl, rfl⟩
  | changeTimezone name =>
    simp only [perform, after_bind_pure, outcome_bind_pure, isOk_map, changeTimezone]
    rw [outcome_bind, after_bind, outcome_state, after_state]
    exact hupdate _
  | demo name args =>
    simp only [perform, after_bind_pure, outcome_bind_pure, isOk_map]
    have hkeeps : Keeps (fun c => c.config = s.state.config ∧ c.selector = s.state.selector)
        (demoCommand around name args) := keeps_demoCommand (fun _ _ _ hc => hc) around name args
    exact hsame (hkeeps s ⟨rfl, rfl⟩)
  | render time => exact absurd rfl (h time)

/-! ## Ticks -/

/-- The instant that a tick shows: the given time, or else the current instant. -/
def tickInstant (around : Surroundings) (time : Option GivenTime) : Attempt Clock Instant := do
  let clock ← Attempt.state
  match time with
  | some t => Attempt.ofExcept (place around.localZone clock.zone t)
  | none => currentInstant around

/-- Finding out what to show changes nothing and compiles nothing. -/
theorem after_tickInstant (around : Surroundings) (time : Option GivenTime) (s : Session Clock) :
    (after (tickInstant around time) s).state = s.state ∧
      (after (tickInstant around time) s).compiled = s.compiled := by
  cases time with
  | some t => exact ⟨rfl, rfl⟩
  | none =>
    have hkeeps : Keeps (fun c => c = s.state) (currentInstant around) :=
      keeps_currentInstant around
    exact ⟨hkeeps s rfl, silent_currentInstant (f := Event.pattern?) (fun _ => rfl) around s⟩

/-- The selector as a tick asks it. -/
def asked (around : Surroundings) (s : Session Clock) (time : Option GivenTime) :
    Session Selector :=
  ⟨s.state.selector, (after (tickInstant around time) s).events⟩

/-- What the selector gives to a tick; nothing if there is no instant to show. -/
def resolution? (around : Surroundings) (s : Session Clock) (time : Option GivenTime) :
    Option (Except Failure TimeFormats) :=
  match outcome (tickInstant around time) s with
  | .error _ => none
  | .ok _ =>
    some (outcome (Selector.resolve around.formats s.state.config.patternKey) (asked around s time))

/-- A tick leaves what asking the selector leaves, if it gets that far. -/
theorem render_run (around : Surroundings) (time : Option GivenTime) (s : Session Clock) :
    let t := after (render around time) s
    let resolve := Selector.resolve around.formats s.state.config.patternKey
    (resolution? around s time = none → t.state = s.state ∧ t.compiled = s.compiled) ∧
      ∀ answer, resolution? around s time = some answer →
        outcome resolve (asked around s time) = answer ∧
          t.state = { s.state with selector := (after resolve (asked around s time)).state } ∧
          t.compiled = (after resolve (asked around s time)).compiled := by
  have hrender : render around time = (do
      let clock ← Attempt.state
      let instant ← tickInstant around time
      let formats ← onSelector (Selector.resolve around.formats clock.config.patternKey)
      renderFace around.dates formats clock.config.layout instant) := by
    cases time <;> rfl
  obtain ⟨hstate, hcompiled⟩ := after_tickInstant around time s
  intro t resolve
  have ht : t = _ := congrArg (fun a => after a s) hrender
  rw [ht, after_bind, outcome_state, after_state, resolution?]
  dsimp only
  rw [after_bind]
  cases outcome (tickInstant around time) s with
  | error e => exact ⟨fun _ => ⟨hstate, hcompiled⟩, fun _ h => nomatch h⟩
  | ok instant =>
    refine ⟨fun h => (nomatch h), fun answer hanswer => ⟨Option.some.inj hanswer, ?_⟩⟩
    have hzoom : after (onSelector resolve) (after (tickInstant around time) s) =
        ⟨{ s.state with selector := (after resolve (asked around s time)).state },
          (after resolve (asked around s time)).events⟩ := by
      rw [asked, ← hstate]
      rfl
    dsimp only
    rw [after_bind, hzoom]
    cases outcome (onSelector resolve) (after (tickInstant around time) s) with
    | error e => exact ⟨rfl, rfl⟩
    | ok formats =>
      -- The face is written from the formats, which changes nothing
      exact ⟨keeps_renderFace (P := (· = _)) around.dates formats s.state.config.layout instant
          _ rfl,
        silent_renderFace (f := Event.pattern?) (fun _ => rfl) around.dates formats instant _⟩

/-! ## Runs -/

/-- What a command did about the formats. -/
inductive Effect where
  /-- A tick got the formats for a key. -/
  | resolved (key : PatternKey)
  /-- A command that did not fail changed the locale. -/
  | newLocale
  /-- Neither. -/
  | none

/-- A command, and what the clock works with when it is carried out. -/
structure Turn where
  around : Surroundings
  command : Command

namespace Turn

/-- What comes of a turn. -/
def outcome (t : Turn) (s : Session Clock) : Except Failure (Option Face) :=
  Attempt.outcome (perform t.around t.command) s

/-- The session after a turn, also when it fails. -/
def after (t : Turn) (s : Session Clock) : Session Clock :=
  Attempt.after (perform t.around t.command) s

/-- What the selector gives in a turn; nothing if it is not asked. -/
def resolution? (t : Turn) (s : Session Clock) : Option (Except Failure TimeFormats) :=
  match t.command with
  | .render time => Clock.resolution? t.around s time
  | _ => .none

/-- What a turn did about the formats, seen from its answer of the selector and from the locale
before and after it. -/
def effect (t : Turn) (s : Session Clock) : Effect :=
  match t.resolution? s with
  | some (.ok _) => .resolved s.state.config.patternKey
  | _ =>
    if (t.outcome s).isOk = true ∧ (t.after s).state.config.locale ≠ s.state.config.locale then
      .newLocale
    else .none

end Turn

/-- The key of the last tick that got formats. -/
def lastKey? : List Effect → Option PatternKey
  | [] => none
  | .resolved key :: _ => some key
  | .newLocale :: earlier | .none :: earlier => lastKey? earlier

/-- The locale has changed since a tick got formats, or since the start if none did. -/
def relocated : List Effect → Bool
  | [] => false
  | .resolved _ :: _ => false
  | .newLocale :: _ => true
  | .none :: earlier => relocated earlier

/-- The session of a clock and what was done about the formats, the last effect first. -/
structure Track where
  session : Session Clock
  effects : List Effect

namespace Track

/-- One more turn. -/
def add (track : Track) (t : Turn) : Track :=
  ⟨t.after track.session, t.effect track.session :: track.effects⟩

/-- The start of a run: a clock whose selector has answered requests before. The last answer that
it keeps counts as one to a tick. -/
def start (clock : Clock) (requests : List Selector.Call) : Track :=
  let log := Selector.Log.ofCalls requests
  ⟨⟨{ clock with selector := log.session.state }, []⟩,
    ((Selector.latest? log.replies).map fun kept => .resolved kept.1).toList⟩

/-- The track of a run, the first turn first. -/
def ofTurns (clock : Clock) (requests : List Selector.Call) (turns : List Turn) : Track :=
  turns.foldl add (start clock requests)

/-- The formats that the last tick got are for the key that the clock has now, and the locale has
not changed since. -/
def IsCurrent (track : Track) : Prop :=
  lastKey? track.effects = some track.session.state.config.patternKey ∧
    relocated track.effects = false

instance (track : Track) : Decidable track.IsCurrent :=
  inferInstanceAs (Decidable (_ ∧ _))

/-- The selector keeps formats for just the key that the run says. -/
def Faithful (track : Track) : Prop :=
  ∀ key, (track.session.state.selector.cache.find? key).isSome = true ↔
    lastKey? track.effects = some key ∧ relocated track.effects = false

end Track

variable {track : Track}

theorem faithful_start (clock : Clock) (requests : List Selector.Call) :
    (Track.start clock requests).Faithful := by
  intro key
  have hcache := (Selector.faithful_ofCalls requests).cache
  show ((Selector.Log.ofCalls requests).session.state.cache.find? key).isSome = true ↔ _
  rw [hcache, Option.isSome_iff_exists]
  simp only [Cache.find?_ofOption_eq_some_iff, Track.start]
  cases Selector.latest? (Selector.Log.ofCalls requests).replies with
  | none => simp [lastKey?]
  | some kept =>
    obtain ⟨other, made⟩ := kept
    simp [lastKey?, relocated]

/-- A turn that leaves the locale and gets no formats does nothing about the formats. -/
theorem Turn.effect_of_locale {t : Turn} {s : Session Clock}
    (hnone : ∀ made, t.resolution? s ≠ some (.ok made))
    (hlocale : (t.after s).state.config.locale = s.state.config.locale) : t.effect s = .none := by
  rw [effect]
  split
  · next made hmade => exact absurd hmade (hnone made)
  · exact if_neg fun h => h.2 hlocale

theorem Turn.effect_of_resolved {t : Turn} {s : Session Clock} {made : TimeFormats}
    (h : t.resolution? s = some (.ok made)) : t.effect s = .resolved s.state.config.patternKey := by
  rw [effect, h]

/-- A tick leaves the configuration. -/
theorem config_after_render (around : Surroundings) (time : Option GivenTime)
    (s : Session Clock) : (after (render around time) s).state.config = s.state.config :=
  keeps_render (P := fun c => c.config = s.state.config)
    (fun _ => keeps_zoom (Q := fun _ => True) (fun _ _ => trivial) (fun _ _ => trivial)
      fun _ _ hc _ => hc) time s rfl

section Tick

variable {t : Turn} {time : Option GivenTime} {s : Session Clock}

theorem Turn.resolution?_of_render (ht : t.command = .render time) (s : Session Clock) :
    t.resolution? s = Clock.resolution? t.around s time := by
  rw [resolution?, ht]

theorem Turn.after_of_render (ht : t.command = .render time) (s : Session Clock) :
    t.after s = Attempt.after (render t.around time) s := by
  rw [after, ht]
  exact after_bind_pure _ _ s

end Tick

/-- A tick leaves a faithful track, whether it gets formats or not. -/
theorem faithful_add_render (h : track.Faithful) {t : Turn} {time : Option GivenTime}
    (ht : t.command = .render time) : (track.add t).Faithful := by
  have hafter := Turn.after_of_render ht track.session
  have hresolution := Turn.resolution?_of_render ht track.session
  have hlocale : (t.after track.session).state.config.locale =
      track.session.state.config.locale := by
    rw [hafter, config_after_render]
  -- A tick that gets no formats leaves those that are kept
  have hsame (hnone : ∀ made, t.resolution? track.session ≠ some (.ok made))
      (hcache : (t.after track.session).state.selector.cache =
        track.session.state.selector.cache) : (track.add t).Faithful := by
    intro key
    simp only [Track.add, t.effect_of_locale hnone hlocale, hcache]
    exact h key
  obtain ⟨hmissed, hasked⟩ := render_run t.around time track.session
  cases hanswer : Clock.resolution? t.around track.session time with
  | none =>
    refine hsame (fun made hmade => ?_) ?_
    · rw [hresolution, hanswer] at hmade
      cases hmade
    · rw [hafter, (hmissed hanswer).1]
  | some answer =>
    obtain ⟨houtcome, hstate, -⟩ := hasked answer hanswer
    cases answer with
    | error e =>
      refine hsame (fun made hmade => ?_) ?_
      · rw [hresolution, hanswer] at hmade
        cases hmade
      · rw [hafter, hstate]
        exact (Selector.state_resolve_of_error houtcome).1
    | ok made =>
      intro key
      have hkept := (Selector.resolve_of_ok houtcome).1 key
      simp only [Track.add, Turn.effect_of_resolved (hresolution.trans hanswer), hafter, hstate,
        hkept, lastKey?, relocated, Option.some.injEq, and_true]

/-- All but ticks leave a faithful track. -/
theorem faithful_add_other (h : track.Faithful) {t : Turn}
    (ht : ∀ time, t.command ≠ .render time) : (track.add t).Faithful := by
  have hnone : t.resolution? track.session = none := by
    rw [Turn.resolution?]
    split
    · next time hrender => exact absurd hrender (ht time)
    · rfl
  have hcache : (t.after track.session).state.selector.cache =
      if (t.outcome track.session).isOk = true ∧
          (t.after track.session).state.config.locale ≠ track.session.state.config.locale
      then Cache.empty else track.session.state.selector.cache :=
    cache_after_perform t.around ht track.session
  intro key
  simp only [Track.add, Turn.effect, hnone, hcache]
  split
  · rw [Cache.find?_empty]
    simp [relocated]
  · exact h key

/-- Whatever a clock is told, and whatever fails, its selector keeps what the run says. -/
theorem faithful_ofTurns (clock : Clock) (requests : List Selector.Call) (turns : List Turn) :
    (Track.ofTurns clock requests turns).Faithful := by
  refine List.foldlRecOn turns Track.add (faithful_start clock requests) fun track h t _ => ?_
  obtain ⟨around, command⟩ := t
  by_cases hrender : ∃ time, command = .render time
  · obtain ⟨time, rfl⟩ := hrender
    exact faithful_add_render h rfl
  · exact faithful_add_other h fun time hsame => hrender ⟨time, hsame⟩

/-- A turn that leaves the key of the clock leaves the formats current. -/
theorem isCurrent_add (h : track.IsCurrent) {t : Turn}
    (hkey : (t.after track.session).state.config.patternKey =
      track.session.state.config.patternKey) : (track.add t).IsCurrent := by
  obtain ⟨hlast, hlocated⟩ := h
  rw [Track.IsCurrent, show (track.add t).session = t.after track.session from rfl, hkey]
  by_cases hresolved : ∃ made, t.resolution? track.session = some (.ok made)
  · obtain ⟨made, hmade⟩ := hresolved
    simp only [Track.add, Turn.effect_of_resolved hmade, lastKey?, relocated, and_self]
  · have hlocale := congrArg PatternKey.locale hkey
    have heffect := Turn.effect_of_locale (fun made hmade => hresolved ⟨made, hmade⟩) hlocale
    simp only [Track.add, heffect]
    exact ⟨hlast, hlocated⟩

/-- A clock compiles exactly when the pattern can have changed.

Whatever a clock has been told, and whatever of it failed, only a tick gives patterns to the
compiler. A tick that gets its formats compiles nothing if they are current: the last tick that
got any got them for the same locale, kind of clock and emphasis, and no command that did not
fail has changed the locale since. Otherwise it compiles the pattern for display and then the
one for reading aloud. Everything that leaves these settings leaves the formats current. -/
theorem compiled_turns (clock : Clock) (requests : List Selector.Call) (turns : List Turn)
    (t : Turn) :
    let track := Track.ofTurns clock requests turns
    let s := track.session
    ((∀ time, t.command ≠ .render time) → (t.after s).compiled = s.compiled) ∧
      (∀ made, t.resolution? s = some (.ok made) →
        (t.after s).compiled = s.compiled ++
          if track.IsCurrent then [] else [made.display.pattern, made.spoken.pattern]) ∧
      (track.IsCurrent → (t.after s).state.config.patternKey = s.state.config.patternKey →
        (track.add t).IsCurrent) := by
  intro track s
  refine ⟨fun ht => compiled_after_perform t.around ht s, fun made hmade => ?_,
    fun h => isCurrent_add h⟩
  have hkept := faithful_ofTurns clock requests turns s.state.config.patternKey
  obtain ⟨time, ht⟩ : ∃ time, t.command = .render time := by
    rw [Turn.resolution?] at hmade
    split at hmade
    · next time ht => exact ⟨time, ht⟩
    · cases hmade
  rw [Turn.resolution?_of_render ht] at hmade
  obtain ⟨houtcome, -, hcompiled⟩ := (render_run t.around time s).2 _ hmade
  have hfound := (Selector.resolve_of_ok houtcome).2
  rw [Turn.after_of_render ht, hcompiled, hfound]
  -- What the tick asked for before did not compile anything
  rw [show (asked t.around s time).compiled = s.compiled from (after_tickInstant ..).2]
  congr 1
  exact ite_congr (propext hkept) (fun _ => rfl) fun _ => rfl

/-- Between two ticks the zone changes, a new locale is rejected along with its zone, and the demo
mode is entered: nothing is compiled. After a change of locale there and back both patterns are
compiled again. -/
theorem compiled_turns_there_and_back :
    let skeletons : SkeletonSource :=
      .table [] (some ⟨"HH:mm:ss", "h:mm:ss a", "HH:mm", "h:mm a"⟩)
    let around : Surroundings :=
      ⟨DateText.write, .ofSkeletons skeletons, Zone.table, .utc, fun _ => .ok .afternoon⟩
    let clock : Clock := ⟨{}, none, false, none, Selector.fresh⟩
    let tick : Turn := ⟨around, .render none⟩
    let enter : Turn := ⟨around, .demo "enter" []⟩
    let settings : List Turn := [.changeTimezone (some "Asia/Tokyo"),
      .updateConfig { locale := "de_DE", timezone := some "Mars/Base" }].map (Turn.mk around)
    let thereAndBack : List Turn :=
      [.changeLocale "de_DE", .changeLocale "en_US"].map (Turn.mk around)
    let same := Track.ofTurns clock [] (tick :: settings ++ [enter])
    let other := Track.ofTurns clock [] (tick :: settings ++ enter :: thereAndBack)
    (enter.after (Track.ofTurns clock [] (tick :: settings)).session).compiled =
        (Track.ofTurns clock [] (tick :: settings)).session.compiled ∧
      same.IsCurrent ∧ ¬other.IsCurrent ∧
      (∃ made, tick.resolution? same.session = some (.ok made) ∧
        (tick.after same.session).compiled = same.session.compiled) ∧
      (∃ made, tick.resolution? other.session = some (.ok made) ∧
        (tick.after other.session).compiled =
          other.session.compiled ++ [made.display.pattern, made.spoken.pattern]) ∧
      (same.add tick).IsCurrent := by
  intro skeletons around clock tick enter settings thereAndBack same other
  have hsame : same.IsCurrent := by decide +kernel
  have hother : ¬other.IsCurrent := by decide +kernel
  have hmade (track : Track) (h : ((tick.resolution? track.session).bind Except.toOption).isSome) :
      ∃ made, tick.resolution? track.session = some (.ok made) := by
    obtain ⟨made, hmade⟩ := Option.isSome_iff_exists.1 h
    obtain ⟨answer, hanswer, hok⟩ := Option.bind_eq_some_iff.1 hmade
    exact ⟨made, hanswer.trans (congrArg some (eq_ok_of_toOption hok))⟩
  obtain ⟨first, hfirst⟩ := hmade same (by decide +kernel)
  obtain ⟨second, hsecond⟩ := hmade other (by decide +kernel)
  obtain ⟨-, hagain, hkeeps⟩ := compiled_turns clock [] (tick :: settings ++ [enter]) tick
  obtain ⟨-, hnew, -⟩ :=
    compiled_turns clock [] (tick :: settings ++ enter :: thereAndBack) tick
  have hagain := hagain first hfirst
  have hnew := hnew second hsecond
  rw [if_pos hsame, List.append_nil] at hagain
  rw [if_neg hother] at hnew
  exact ⟨(compiled_turns clock [] (tick :: settings) enter).1 (fun _ => Command.noConfusion),
    hsame, hother, ⟨first, hfirst, hagain⟩, ⟨second, hsecond, hnew⟩,
    hkeeps hsame (by decide +kernel)⟩

end Clock

end ClockFace
