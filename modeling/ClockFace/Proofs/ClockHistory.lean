import ClockFace.Proofs.FaceSource
import ClockFace.Run.Clock
import ClockFace.Time.ZoneTable

/-! # What a clock has been told

Beside its configuration a clock keeps a zone, the formats that it made last and the state
of its demo mode. `Clock.Sound` ties the zone to the configuration, and the formats to
their source; every command leaves a sound clock, also one that fails (`keeps_perform`).
The demo mode decides what a clock shows of its own accord, but not how it shows a time
that it is given. So the face of a given time depends on the configuration alone.

## Key results

- `keeps_perform_and`, `keeps_perform`: what one command leaves
- `sound_history`: what any run of commands leaves
- `outcome_render`: the face of a given time, for a sound clock
- `render_history_eq_anew`: no given time can tell a clock from a new one
-/

namespace ClockFace

namespace Clock

open Attempt

/-- The zone is the one that the configuration names, and the selector remembers what the
source gives. -/
structure Sound (zones : ZoneTable) (source : FormatSource) (c : Clock) : Prop where
  zone : ZoneName.resolve zones c.config.timezone = .ok c.zone
  selector : Selector.Sound source c.selector

variable {zones : ZoneTable} {source : FormatSource}

/-! ## Commands -/

/-- A new configuration comes with the zone that it names, and is all that changes beside
the selector. -/
theorem keeps_updateConfig {P : Clock → Prop} {config : Config}
    (hzone : ∀ c, P c → ZoneName.resolve zones c.config.timezone = .ok c.zone)
    (hconfig : ∀ c zone, P c → ZoneName.resolve zones config.timezone = .ok zone →
      P { c with config, zone })
    (hselector : Keeps P (onSelector Selector.invalidate)) :
    Keeps P (updateConfig zones config) := by
  -- Once the zone is known, nothing fails any more
  have hfinish {zone : Option Zone} (hresolve : ZoneName.resolve zones config.timezone = .ok zone)
      (previous : Clock) : Keeps P (do
        Attempt.change fun c => { c with config, zone }
        if config.locale ≠ previous.config.locale then
          onSelector Selector.invalidate
        Attempt.notice (.configUpdated config)) := by
    refine keeps_bind (keeps_change fun c hc => hconfig c zone hc hresolve) fun _ => ?_
    dsimp only
    split
    · exact keeps_bind hselector fun _ => keeps_notice _
    · exact keeps_notice _
  refine keeps_state_bind fun previous hprevious => ?_
  by_cases hsame : config.timezone = previous.config.timezone
  · -- The zone stays, and is still the one that is named
    have hresolve : ZoneName.resolve zones config.timezone = .ok previous.zone := by
      rw [hsame]
      exact hzone previous hprevious
    simp only [if_neg (not_not_intro hsame)]
    exact hfinish hresolve previous
  · simp only [if_pos hsame]
    exact keeps_ofExcept_bind fun zone hresolve => hfinish hresolve previous

/-- A change of locale is one of the configuration, if there is any. -/
theorem keeps_changeLocale {P : Clock → Prop} {tag : String}
    (h : ∀ c, P c → Keeps P (updateConfig zones { c.config with locale := tag })) :
    Keeps P (changeLocale zones tag) := by
  refine keeps_state_bind fun c hc => ?_
  dsimp only
  split
  · exact h c hc
  · exact keeps_pure _

/-- Asking for the time changes nothing. -/
theorem keeps_askTime {P : Clock → Prop} (around : Surroundings) : Keeps P (askTime around) :=
  keeps_state_bind fun _ _ => keeps_bind (keeps_event _) fun _ => keeps_ofExcept _

theorem keeps_currentInstant {P : Clock → Prop} (around : Surroundings) :
    Keeps P (currentInstant around) := by
  refine keeps_state_bind fun clock _ => ?_
  split
  · exact keeps_pure _
  · exact keeps_askTime around

/-- A demo command changes the demo state alone. -/
theorem keeps_demoCommand {P : Clock → Prop}
    (hdemo : ∀ c demo pinned, P c → P { c with demo, pinned }) (around : Surroundings)
    (name : String) (args : Config.Fields) : Keeps P (demoCommand around name args) := by
  refine keeps_state_bind fun clock _ => ?_
  have hset (base : Instant) : Keeps P (do
      let instant ← Attempt.ofExcept (demoInstant around.localZone clock base args)
      Attempt.change fun c => { c with pinned := some instant }
      Attempt.notice (.demoClockSet instant)) :=
    keeps_bind (keeps_ofExcept _) fun instant =>
      keeps_bind (keeps_change fun c hc => hdemo c c.demo (some instant) hc) fun _ =>
        keeps_notice _
  split
  · -- The mode is entered before the time is asked for
    refine keeps_bind (keeps_change fun c hc => hdemo c true c.pinned hc) fun _ => ?_
    refine keeps_bind (keeps_askTime around) fun instant => ?_
    exact keeps_bind (keeps_change fun c hc => hdemo c c.demo (some instant) hc) fun _ =>
      keeps_notice _
  · split
    · exact keeps_bind (keeps_change fun c hc => hdemo c false none hc) fun _ => keeps_notice _
    · split
      · -- The demo time is set from the pinned instant, or from the current time
        cases clock.pinned with
        | some i => exact keeps_bind (keeps_pure i) hset
        | none => exact keeps_bind (keeps_askTime around) hset
      · exact keeps_pure _

/-- Rendering changes the selector alone. -/
theorem keeps_render {P : Clock → Prop} {around : Surroundings}
    (hselector : ∀ key, Keeps P (onSelector (Selector.resolve around.formats key)))
    (time : Option GivenTime) : Keeps P (render around time) := by
  refine keeps_state_bind fun clock _ => ?_
  have hshow (instant : Instant) : Keeps P (do
      let formats ← onSelector (Selector.resolve around.formats clock.config.patternKey)
      renderFace around.dates formats clock.config.layout instant) :=
    keeps_bind (hselector _) fun formats =>
      keeps_renderFace around.dates formats clock.config.layout instant
  cases time with
  | some t => exact keeps_bind (keeps_ofExcept _) hshow
  | none => exact keeps_bind (keeps_currentInstant around) hshow

/-- The configuration that a command sends to a clock. -/
def sentConfig? (c : Clock) : Command → Option Config
  | .updateConfig config => some config
  | .changeLocale tag => some { c.config with locale := tag }
  | .changeTimezone name => some { c.config with timezone := name }
  | .demo _ _ | .render _ => none

/-- A command leaves a sound clock, also one that fails, and any property besides that no part
of it disturbs: neither the configuration that it sends, nor a change of the demo state if it
is a demo command, nor what it does to the selector. -/
theorem keeps_perform_and {Q : Clock → Prop} {around : Surroundings} {command : Command}
    (hconfig : ∀ c config, Q c → sentConfig? c command = some config →
      ∀ other zone, Q other → Q { other with config, zone })
    (hdemo : ∀ name args, command = .demo name args →
      ∀ c demo pinned, Q c → Q { c with demo, pinned })
    (hselector : ∀ c selector, Q c → Q { c with selector }) :
    Keeps (fun c => Sound around.zones around.formats c ∧ Q c) (perform around command) := by
  let P (c : Clock) : Prop := Sound around.zones around.formats c ∧ Q c
  have hresolve {α : Type} {a : Attempt Selector α} (h : Keeps (Selector.Sound around.formats) a) :
      Keeps P (onSelector a) :=
    keeps_zoom h (fun _ hc => hc.1.selector) fun c selector hc hs =>
      ⟨⟨hc.1.zone, hs⟩, hselector c selector hc.2⟩
  have hupdate (c : Clock) (hc : P c) (config : Config)
      (hsent : sentConfig? c command = some config) :
      Keeps P (updateConfig around.zones config) :=
    keeps_updateConfig (fun _ hother => hother.1.zone)
      (fun other zone hother hzone => ⟨⟨hzone, hother.1.selector⟩,
        hconfig c config hc.2 hsent other zone hother.2⟩)
      (hresolve fun _ hs => Selector.sound_after_invalidate hs)
  cases command with
  | updateConfig config =>
    have hrun : Keeps P (updateConfig around.zones config) :=
      fun s hs => hupdate s.state hs config rfl s hs
    exact keeps_bind hrun fun _ => keeps_pure _
  | changeLocale tag =>
    exact keeps_bind (keeps_changeLocale fun c hc => hupdate c hc _ rfl) fun _ => keeps_pure _
  | changeTimezone name =>
    exact keeps_bind (keeps_state_bind fun c hc => hupdate c hc _ rfl) fun _ => keeps_pure _
  | demo name args =>
    have hrun : Keeps P (demoCommand around name args) :=
      keeps_demoCommand (fun c demo pinned hc =>
        ⟨⟨hc.1.zone, hc.1.selector⟩, hdemo name args rfl c demo pinned hc.2⟩) around name args
    exact keeps_bind hrun fun _ => keeps_pure _
  | render time =>
    have hrun : Keeps P (render around time) :=
      keeps_render (fun key => hresolve fun _ hs => Selector.sound_after_resolve hs key) time
    exact keeps_bind hrun fun _ => keeps_pure _

/-- A command leaves a sound clock, also one that fails. -/
theorem keeps_perform (around : Surroundings) (command : Command) :
    Keeps (Sound around.zones around.formats) (perform around command) := by
  have htrue :
      Keeps (fun c => Sound around.zones around.formats c ∧ True) (perform around command) :=
    keeps_perform_and (fun _ _ _ _ _ _ h => h) (fun _ _ _ _ _ _ h => h) fun _ _ h => h
  exact fun s hs => (htrue s ⟨hs, trivial⟩).1

/-! ## Runs -/

/-- A command, and the time and the zone of the machine when it is carried out. -/
structure Call where
  localZone : Zone
  now : Option Zone → Except Failure Instant
  command : Command

/-- The session after a call, also when it fails. The dates and the formats come from where
they always do. -/
def Call.after (around : Surroundings) (s : Session Clock) (c : Call) : Session Clock :=
  Attempt.after (perform { around with localZone := c.localZone, now := c.now } c.command) s

/-- The session of a clock after some calls, the first one first. -/
def history (around : Surroundings) (clock : Clock) (calls : List Call) : Session Clock :=
  calls.foldl (Call.after around) ⟨clock, []⟩

/-- A sound clock stays sound, whatever it is told and whatever fails. -/
theorem sound_history (around : Surroundings) {clock : Clock}
    (h : Sound around.zones around.formats clock) (calls : List Call) :
    Sound around.zones around.formats (history around clock calls).state := by
  refine List.foldlRecOn calls
    (motive := fun s : Session Clock => Sound around.zones around.formats s.state) _ h ?_
  exact fun s hs c _ => keeps_perform { around with localZone := c.localZone, now := c.now } _ s hs

/-! ## New clocks -/

/-- A clock with a configuration, whose zone must exist, and a selector. -/
def withSelector (zones : ZoneTable) (selector : Selector) (config : Config) :
    Except Failure Clock :=
  (ofConfig zones config).map fun c => { c with selector }

theorem withSelector_eq (zones : ZoneTable) (selector : Selector) (config : Config) :
    withSelector zones selector config = (ZoneName.resolve zones config.timezone).map
      fun zone => { config, zone, demo := false, pinned := none, selector } := by
  rw [withSelector, ofConfig]
  cases ZoneName.resolve zones config.timezone <;> rfl

/-- A new clock is in the zone that its configuration names. -/
theorem withSelector_of_resolve {config : Config} {zone : Option Zone}
    (h : ZoneName.resolve zones config.timezone = .ok zone) (selector : Selector) :
    withSelector zones selector config =
      .ok { config, zone, demo := false, pinned := none, selector } := by
  rw [withSelector_eq, h]
  rfl

/-- A new clock is sound if its selector is. -/
theorem sound_of_withSelector {selector : Selector} {config : Config} {clock : Clock}
    (hselector : Selector.Sound source selector)
    (h : withSelector zones selector config = .ok clock) : Sound zones source clock := by
  rw [withSelector_eq] at h
  obtain ⟨zone, hzone, rfl⟩ := of_map_eq_ok h
  exact ⟨hzone, hselector⟩

/-- The configuration of a sound clock is one that a new clock can have. -/
theorem Sound.withSelector_eq_ok {c : Clock} (h : Sound zones source c) (selector : Selector) :
    withSelector zones selector c.config =
      .ok { c with demo := false, pinned := none, selector } :=
  withSelector_of_resolve h.zone selector

/-- A new clock whose selector has been asked before stays sound. -/
theorem sound_history_of_withSelector {around : Surroundings} {requests : List Selector.Request}
    {config : Config} {clock : Clock}
    (h : withSelector around.zones (Selector.history around.formats requests).state config =
      .ok clock)
    (calls : List Call) : Sound around.zones around.formats (history around clock calls).state :=
  sound_history around (sound_of_withSelector (Selector.sound_history _ requests) h) calls

/-! ## Given times -/

/-- With a sound selector, the face of an instant is the one of the source. -/
theorem outcome_face {around : Surroundings} {s : Session Clock}
    (h : Selector.Sound around.formats s.state.selector) (config : Config) (instant : Instant) :
    outcome (do
      let formats ← onSelector (Selector.resolve around.formats config.patternKey)
      renderFace around.dates formats config.layout instant) s =
      around.formats.face around.dates config instant := by
  rw [← Selector.outcome_face (s := ⟨s.state.selector, s.events⟩) h around.dates config instant]
  simp only [Selector.face, onSelector, outcome_bind, outcome_zoom, renderFace_outcome]

/-- A sound clock shows a given time in its zone, with the face of its source. -/
theorem outcome_render {around : Surroundings} {s : Session Clock}
    (h : Sound around.zones around.formats s.state) (t : GivenTime) :
    outcome (render around (some t)) s = (do
      let instant ← place around.localZone s.state.zone t
      around.formats.face around.dates s.state.config instant) := by
  rw [render, outcome_bind, outcome_state]
  dsimp only
  rw [outcome_bind, outcome_ofExcept, after_ofExcept, after_state]
  cases place around.localZone s.state.zone t with
  | error e => rfl
  | ok instant => exact outcome_face h.selector s.state.config instant

/-- A clock has no hidden history.

Whatever a clock has been told, and whatever of it failed, it shows a given time as a new
clock with its configuration does, or fails as that one does. Neither the selector that it
was made with nor that of the new clock matters, as long as they are over one source, and
there always is such a new clock. -/
theorem render_history_eq_anew (around : Surroundings) (requests : List Selector.Request)
    {config : Config} {clock : Clock}
    (h : withSelector around.zones (Selector.history around.formats requests).state config =
      .ok clock)
    (calls : List Call) (others : List Selector.Request) (t : GivenTime) :
    let s := history around clock calls
    ∃ anew : Clock,
      withSelector around.zones (Selector.history around.formats others).state.anew
        s.state.config = .ok anew ∧
      outcome (render around (some t)) s = outcome (render around (some t)) ⟨anew, []⟩ := by
  intro s
  have hsound : Sound around.zones around.formats s.state :=
    sound_history_of_withSelector h calls
  have hselector := Selector.sound_anew (Selector.sound_history around.formats others)
  have hanew := hsound.withSelector_eq_ok (Selector.history around.formats others).state.anew
  refine ⟨_, hanew, ?_⟩
  rw [outcome_render hsound, outcome_render (sound_of_withSelector hselector hanew)]

/-- A clock in demo mode follows two changes of zone, the second to a zone that does not
exist. It shows a moment in the zone of the first change, as a new clock there does. -/
theorem render_history_eq_anew_tokyo :
    let skeletons : SkeletonSource :=
      .table [] (some ⟨"HH:mm:ss", "h:mm:ss a", "HH:mm", "h:mm a"⟩)
    let around : Surroundings :=
      ⟨DateText.write, .ofSkeletons skeletons, Zone.table, .utc, fun _ => .ok .afternoon⟩
    let clock : Clock := ⟨{ emphasis := .small }, none, false, none, Selector.fresh⟩
    let calls : List Call :=
      [.demo "enter" [], .changeTimezone (some "Asia/Tokyo"), .render none,
        .changeTimezone (some "Mars/Base")].map (⟨around.localZone, around.now, ·⟩)
    outcome (render around (some (.seconds 0))) (history around clock calls) =
        .ok ⟨"9:00 AM".toList, [⟨.amPmEmphasis, 4, 7, .resize SpanAction.smallFactor, by decide⟩],
          "9:00 AM".toList⟩ ∧
      ∃ anew : Clock,
        withSelector around.zones (Selector.history around.formats []).state.anew
            (history around clock calls).state.config = .ok anew ∧
        outcome (render around (some (.seconds 0))) (history around clock calls) =
          outcome (render around (some (.seconds 0))) ⟨anew, []⟩ := by
  intro skeletons around clock calls
  have hclock : withSelector around.zones (Selector.history around.formats []).state clock.config =
    .ok clock :=
    rfl
  exact ⟨eq_ok_of_toOption (by decide +kernel),
    render_history_eq_anew around [] hclock calls [] (.seconds 0)⟩

end Clock

end ClockFace
