import ClockFace.Proofs.DemoZone
import ClockFace.Proofs.RenderEvents

/-! # The demo mode

A clock is live or it shows a demo instant. It goes from one to the other by the commands
that enter and leave the demo mode, and from one demo instant to another by the command that
sets a demo time. Everything else leaves the demo state, and so does a demo command that does
not fit the mode, or that fails.

The mode and the pinned instant are kept apart, and both are read. With a clock source that
answers, an instant is pinned exactly in the demo mode (`Paired`), so that the source is asked
by a live clock alone: once for a tick, in the zone of the clock.

## Key results

- `keeps_demoState`: the commands that leave the demo state
- `live_of_demoState`, `showing_of_demoState`: what a clock does in either mode
- `paired_history`: an instant is pinned exactly in the demo mode
- `demoMode_history`: what a clock does after any run
-/

namespace ClockFace

namespace Clock

open Attempt

/-- An instant is pinned exactly in the demo mode. -/
def Paired (c : Clock) : Prop :=
  c.demo = c.pinned.isSome

/-- A source of the time that always has an answer. -/
def AlwaysAnswers (now : Option Zone → Except Failure Instant) : Prop :=
  ∀ zone, ∃ i, now zone = .ok i

/-! ## Demo commands -/

section Demo

variable {around : Surroundings} {s : Session Clock} {args : Config.Fields} {i : Instant}

/-- Entering the demo mode pins the current time. -/
theorem perform_enter (hdemo : s.state.demo = false) (hnow : around.now s.state.zone = .ok i)
    (args : Config.Fields) :
    outcome (perform around (.demo "enter" args)) s = .ok none ∧
      (after (perform around (.demo "enter" args)) s).state.demoState = (true, some i) := by
  obtain ⟨houtcome, hafter⟩ := perform_demo_eq around s "enter" args
  obtain ⟨hrun, hstate⟩ := demoCommand_enter_run around hdemo args
  rw [houtcome, hafter, hrun, hstate, hnow]
  exact ⟨rfl, rfl⟩

/-- Leaving the demo mode forgets the pinned instant. -/
theorem perform_exit (hdemo : s.state.demo = true) (args : Config.Fields) :
    outcome (perform around (.demo "exit" args)) s = .ok none ∧
      (after (perform around (.demo "exit" args)) s).state.demoState = (false, none) := by
  have henter : ¬(!s.state.demo && "exit" = "enter") = true := by rw [hdemo]; decide
  have hexit : (s.state.demo && "exit" = "exit") = true := by rw [hdemo]; rfl
  obtain ⟨houtcome, hafter⟩ := perform_demo_eq around s "exit" args
  rw [houtcome, hafter, demoCommand, outcome_bind, after_bind, outcome_state, after_state]
  dsimp only
  rw [if_neg henter, if_pos hexit]
  exact ⟨rfl, rfl⟩

/-- Where an instant is pinned in the demo mode, no demo command asks for the time. -/
theorem askedZones_after_demoCommand (hdemo : s.state.demo = true)
    (hpinned : s.state.pinned = some i) (name : String) (args : Config.Fields) :
    (after (demoCommand around name args) s).askedZones = s.askedZones := by
  have hset : Silent Event.askedZone? (do
      let instant ← Attempt.ofExcept (demoInstant around.localZone s.state i args)
      Attempt.change fun c => { c with pinned := some instant }
      Attempt.notice (.demoClockSet instant) : Attempt Clock Unit) :=
    silent_bind (silent_ofExcept _) fun _ =>
      silent_bind (silent_change _) fun _ => silent_notice rfl
  rw [demoCommand, after_bind, outcome_state, after_state]
  dsimp only
  rw [hpinned, hdemo, if_neg (by simp)]
  split
  · exact silent_bind (silent_change _) (fun _ => silent_notice rfl) s
  · split
    · exact silent_bind (silent_pure i) (fun _ => hset) s
    · rfl

/-- Setting a demo time starts from the pinned instant; where it makes none, that one stays. -/
theorem perform_clock (hdemo : s.state.demo = true) (hpinned : s.state.pinned = some i)
    (args : Config.Fields) :
    let made := demoInstant around.localZone s.state i args
    let t := after (perform around (.demo "clock" args)) s
    outcome (perform around (.demo "clock" args)) s = made.map (fun _ => none) ∧
      t.state.demoState = (true, some (made.toOption.getD i)) ∧ t.askedZones = s.askedZones := by
  obtain ⟨houtcome, hafter⟩ := perform_demo_eq around s "clock" args
  obtain ⟨hrun, hstate⟩ := demoCommand_clock_run around hdemo args
  have hmade : (do demoInstant around.localZone s.state (← demoBase around s.state) args) =
      demoInstant around.localZone s.state i args := by
    rw [demoBase, hpinned]
    rfl
  rw [hmade] at hrun hstate
  dsimp only
  rw [houtcome, hafter, hrun, hstate, hpinned, hdemo]
  refine ⟨?_, ?_, askedZones_after_demoCommand hdemo hpinned "clock" args⟩
  · cases demoInstant around.localZone s.state i args <;> rfl
  · cases demoInstant around.localZone s.state i args <;> rfl

/-- A demo command that does not fit the mode does nothing. -/
theorem after_perform_ignored {name : String}
    (henter : s.state.demo = false → name ≠ "enter")
    (hdemo : s.state.demo = true → name ≠ "exit" ∧ name ≠ "clock") (args : Config.Fields) :
    after (perform around (.demo name args)) s = s := by
  rw [(perform_demo_eq around s name args).2, demoCommand, after_bind, outcome_state, after_state]
  cases hmode : s.state.demo with
  | false => simp [hmode, henter hmode]
  | true => simp [hmode, hdemo hmode]

end Demo

/-! ## Other commands -/

/-- All but demo commands leave the demo state. -/
theorem keeps_demoState (around : Surroundings) {command : Command}
    (hdemo : ∀ name args, command ≠ .demo name args) (d : Bool × Option Instant) :
    Keeps (fun c => Sound around.zones around.formats c ∧ c.demoState = d)
      (perform around command) :=
  keeps_perform_and (fun _ _ _ _ _ _ hd => hd)
    (fun name args hsame => absurd hsame (hdemo name args)) fun _ _ hd => hd

/-! ## Ticks -/

section Ticks

variable {around : Surroundings} {s : Session Clock}

/-- Only to find out what to show may a tick ask for the time. -/
theorem askedZones_after_render (around : Surroundings) (s : Session Clock) :
    (after (render around none) s).askedZones = (after (currentInstant around) s).askedZones := by
  have hshow (instant : Instant) : Silent Event.askedZone? (do
      let formats ← onSelector (Selector.resolve around.formats s.state.config.patternKey)
      renderFace around.dates formats s.state.config.layout instant) :=
    silent_bind (silent_zoom (Selector.silent_resolve (fun _ => rfl) (fun _ => rfl) _ _))
      fun formats => silent_renderFace (fun _ => rfl) _ formats _
  rw [render, after_bind, outcome_state, after_state]
  dsimp only
  rw [after_bind]
  cases outcome (currentInstant around) s with
  | error e => rfl
  | ok instant => exact hshow instant _

/-- A live clock asks for the time, once and in its zone. -/
theorem currentInstant_of_live (h : s.state.demo = false) :
    outcome (currentInstant around) s = around.now s.state.zone ∧
      after (currentInstant around) s = ⟨s.state, s.events ++ [.askedTime s.state.zone]⟩ := by
  rw [currentInstant, outcome_bind, after_bind, outcome_state, after_state]
  dsimp only
  rw [h]
  exact ⟨rfl, rfl⟩

/-- A clock in the demo mode shows the pinned instant and asks for nothing. -/
theorem currentInstant_of_showing (around : Surroundings) {i : Instant}
    (hdemo : s.state.demo = true) (hpinned : s.state.pinned = some i) :
    outcome (currentInstant around) s = .ok i ∧ after (currentInstant around) s = s := by
  rw [currentInstant, outcome_bind, after_bind, outcome_state, after_state]
  dsimp only
  rw [hdemo, hpinned]
  exact ⟨rfl, rfl⟩

end Ticks

/-! ## Modes -/

/-- What a clock does outside the demo mode: for a tick it asks for the time once, in its zone,
and only entering the demo mode changes its demo state. -/
structure Live (around : Surroundings) (s : Session Clock) : Prop where
  state : s.state.demoState = (false, none)
  render : (after (render around none) s).askedZones = s.askedZones ++ [s.state.zone]
  enter : ∀ args, ∃ i, around.now s.state.zone = .ok i ∧
    outcome (perform around (.demo "enter" args)) s = .ok none ∧
    (after (perform around (.demo "enter" args)) s).state.demoState = (true, some i)
  other : ∀ command, (∀ args, command ≠ .demo "enter" args) →
    (after (perform around command) s).state.demoState = (false, none)

/-- What a clock does in the demo mode: a tick shows the pinned instant, and neither a tick nor
a demo time asks for the time. Only leaving the mode and a demo time that is made change the
demo state. -/
structure Showing (around : Surroundings) (i : Instant) (s : Session Clock) : Prop where
  state : s.state.demoState = (true, some i)
  render : outcome (render around none) s = around.formats.face around.dates s.state.config i ∧
    (after (render around none) s).askedZones = s.askedZones
  exit : ∀ args, outcome (perform around (.demo "exit" args)) s = .ok none ∧
    (after (perform around (.demo "exit" args)) s).state.demoState = (false, none)
  clock : ∀ args,
    let made := demoInstant around.localZone s.state i args
    let t := after (perform around (.demo "clock" args)) s
    outcome (perform around (.demo "clock" args)) s = made.map (fun _ => none) ∧
      t.state.demoState = (true, some (made.toOption.getD i)) ∧ t.askedZones = s.askedZones
  other : ∀ command, (∀ args, command ≠ .demo "exit" args ∧ command ≠ .demo "clock" args) →
    (after (perform around command) s).state.demoState = (true, some i)

section Modes

variable {around : Surroundings} {s : Session Clock}

/-- A command leaves the demo state unless it is a demo command that fits the mode. -/
theorem demoState_of_other (h : Sound around.zones around.formats s.state) {command : Command}
    (henter : s.state.demo = false → ∀ args, command ≠ .demo "enter" args)
    (hdemo : s.state.demo = true → ∀ args,
      command ≠ .demo "exit" args ∧ command ≠ .demo "clock" args) :
    (after (perform around command) s).state.demoState = s.state.demoState := by
  by_cases hcommand : ∃ name args, command = .demo name args
  · obtain ⟨name, args, rfl⟩ := hcommand
    rw [after_perform_ignored]
    · rintro hmode rfl
      exact henter hmode args rfl
    · intro hmode
      refine ⟨?_, ?_⟩
      · rintro rfl
        exact (hdemo hmode args).1 rfl
      · rintro rfl
        exact (hdemo hmode args).2 rfl
  · have hne : ∀ name args, command ≠ .demo name args := fun name args hsame =>
      hcommand ⟨name, args, hsame⟩
    exact (keeps_demoState around hne s.state.demoState s ⟨h, rfl⟩).2

/-- A clock that is not in the demo mode, and has nothing pinned, is live. -/
theorem live_of_demoState (hsound : Sound around.zones around.formats s.state)
    (hnow : AlwaysAnswers around.now) (h : s.state.demoState = (false, none)) : Live around s := by
  obtain ⟨hdemo, hpinned⟩ := Prod.mk.inj h
  refine ⟨h, ?_, fun args => ?_, fun command hother => ?_⟩
  · rw [askedZones_after_render, (currentInstant_of_live hdemo).2, Session.askedZones,
      List.filterMap_append]
    rfl
  · obtain ⟨i, hi⟩ := hnow s.state.zone
    exact ⟨i, hi, perform_enter hdemo hi args⟩
  · rw [← h]
    refine demoState_of_other hsound (fun _ => hother) fun hmode => ?_
    rw [hdemo] at hmode
    cases hmode

/-- A clock in the demo mode shows the instant that is pinned. -/
theorem showing_of_demoState (hsound : Sound around.zones around.formats s.state) {i : Instant}
    (h : s.state.demoState = (true, some i)) : Showing around i s := by
  obtain ⟨hdemo, hpinned⟩ := Prod.mk.inj h
  obtain ⟨hshown, hasked⟩ := currentInstant_of_showing around hdemo hpinned
  refine ⟨h, ⟨?_, ?_⟩, perform_exit hdemo, perform_clock hdemo hpinned, fun command hother => ?_⟩
  · rw [outcome_render_none hsound, hshown]
    rfl
  · rw [askedZones_after_render, hasked]
  · rw [← h]
    refine demoState_of_other hsound (fun hmode => ?_) fun _ => hother
    rw [hdemo] at hmode
    cases hmode

/-- What a clock does is decided by what is pinned. -/
theorem Paired.live_or_showing (hpaired : Paired s.state)
    (hsound : Sound around.zones around.formats s.state) (hnow : AlwaysAnswers around.now) :
    (s.state.pinned = none → Live around s) ∧
      ∀ i, s.state.pinned = some i → Showing around i s := by
  rw [Paired] at hpaired
  refine ⟨fun hpinned => ?_, fun i hpinned => ?_⟩
  · rw [hpinned] at hpaired
    exact live_of_demoState hsound hnow (Prod.ext hpaired hpinned)
  · rw [hpinned] at hpaired
    exact showing_of_demoState hsound (Prod.ext hpaired hpinned)

theorem paired_of_demoState {c : Clock} {demo : Bool} {pinned : Option Instant}
    (h : c.demoState = (demo, pinned)) (hpaired : demo = pinned.isSome) : Paired c := by
  obtain ⟨rfl, rfl⟩ := Prod.mk.inj h
  exact hpaired

end Modes

/-! ## Runs -/

/-- Every command leaves an instant pinned exactly in the demo mode, also one that fails. -/
theorem paired_after_perform (around : Surroundings) {s : Session Clock}
    (hpaired : Paired s.state) (hsound : Sound around.zones around.formats s.state)
    (hnow : AlwaysAnswers around.now) (command : Command) :
    Paired (after (perform around command) s).state := by
  obtain ⟨hlive, hshowing⟩ := hpaired.live_or_showing hsound hnow
  cases hpinned : s.state.pinned with
  | none =>
    have hmode := hlive hpinned
    by_cases henter : ∃ args, command = .demo "enter" args
    · obtain ⟨args, rfl⟩ := henter
      obtain ⟨i, -, -, hstate⟩ := hmode.enter args
      exact paired_of_demoState hstate rfl
    · exact paired_of_demoState (hmode.other command fun args hsame => henter ⟨args, hsame⟩) rfl
  | some i =>
    have hmode := hshowing i hpinned
    by_cases hexit : ∃ args, command = .demo "exit" args
    · obtain ⟨args, rfl⟩ := hexit
      exact paired_of_demoState (hmode.exit args).2 rfl
    · by_cases hclock : ∃ args, command = .demo "clock" args
      · obtain ⟨args, rfl⟩ := hclock
        exact paired_of_demoState (hmode.clock args).2.1 rfl
      · exact paired_of_demoState (hmode.other command fun args =>
          ⟨fun hsame => hexit ⟨args, hsame⟩, fun hsame => hclock ⟨args, hsame⟩⟩) rfl

/-- Whatever a clock is told, and whatever fails, an instant is pinned exactly in the demo mode,
as long as its source of the time answers. -/
theorem paired_history (around : Surroundings) {clock : Clock}
    (h : Sound around.zones around.formats clock) (hpaired : Paired clock) {calls : List Call} (hcalls : ∀ c ∈ calls, AlwaysAnswers c.now) :
    Paired (history around clock calls).state := by
  have hboth : Sound around.zones around.formats (history around clock calls).state ∧
      Paired (history around clock calls).state := by
    refine List.foldlRecOn calls (Call.after around)
      (motive := fun s : Session Clock =>
        Sound around.zones around.formats s.state ∧ Paired s.state)
      ⟨h, hpaired⟩ fun s hs c hc => ?_
    let there : Surroundings := { around with localZone := c.localZone, now := c.now }
    exact ⟨keeps_perform there c.command s hs.1,
      paired_after_perform there hs.2 hs.1 (hcalls c hc) c.command⟩
  exact hboth.2

/-- The demo mode is a state machine of two states.

The source of the time always answers. Then, whatever a clock is told and whatever fails, it is
in the demo mode exactly if an instant is pinned. If none is, the clock is live: it asks for the
time once for a tick, in the zone that its configuration names, and only entering the demo mode
changes anything. If one is, ticks show just that one, and neither they nor demo times ask for
the time; it goes only by leaving the mode, and gives way only to a demo time that is made. -/
theorem demoMode_history (around : Surroundings) (hnow : AlwaysAnswers around.now)
    (requests : List Selector.Request) {config : Config} {clock : Clock}
    (h : withSelector around.zones (Selector.history around.formats requests).state config =
      .ok clock)
    {calls : List Call} (hcalls : ∀ c ∈ calls, AlwaysAnswers c.now) :
    let s := history around clock calls
    ZoneName.resolve around.zones s.state.config.timezone = .ok s.state.zone ∧
      s.state.demo = s.state.pinned.isSome ∧
      (s.state.pinned = none → Live around s) ∧
      ∀ i, s.state.pinned = some i → Showing around i s := by
  intro s
  have hclock := sound_of_withSelector (Selector.sound_history around.formats requests) h
  have hsound : Sound around.zones around.formats s.state := sound_history around hclock calls
  have hpaired : Paired s.state := by
    rw [withSelector_eq] at h
    obtain ⟨zone, -, rfl⟩ := of_map_eq_ok h
    exact paired_history around hclock rfl hcalls
  exact ⟨hsound.zone, hpaired, hpaired.live_or_showing hsound hnow⟩

/-- A demo time is sent before the demo mode is entered, twice; then the zone changes, a demo
time fails and another one is made. The source was asked once, in the zone of that time. -/
theorem demoMode_history_entered_twice :
    let around : Surroundings :=
      ⟨DateText.write, .ofSkeletons .localeData, Zone.table, .utc,
        fun _ => .ok ⟨1704899045000000, .zone .utc, false⟩⟩
    let config : Config := { timezone := some "UTC" }
    let clock : Clock := ⟨config, some .utc, false, none, Selector.fresh⟩
    let calls : List Call :=
      [.demo "clock" [("hhmm", .text "0930")], .demo "enter" [], .demo "enter" [],
        .changeTimezone (some "Asia/Tokyo"), .demo "clock" [("hhmm", .text "12ab")],
        .render none, .demo "clock" [("hhmm", .text "0930")]].map
          (Call.mk around.localZone around.now)
    let s := history around clock calls
    AlwaysAnswers around.now ∧
      withSelector around.zones (Selector.history around.formats []).state config = .ok clock ∧
      (∀ c ∈ calls, AlwaysAnswers c.now) ∧
      s.askedZones = [some .utc] ∧
      ∃ i, i.wall = 1704922205000000 ∧ s.state.pinned = some i ∧ Showing around i s := by
  intro around config clock calls
  have hnow : AlwaysAnswers around.now := fun _ => ⟨_, rfl⟩
  have hresolve : ZoneName.resolve around.zones config.timezone = .ok clock.zone :=
    eq_ok_of_toOption (by decide +kernel)
  have hclock : withSelector around.zones (Selector.history around.formats []).state config =
      .ok clock := withSelector_of_resolve hresolve _
  have hcalls : ∀ c ∈ calls, AlwaysAnswers c.now := by
    intro c hc
    obtain ⟨command, -, rfl⟩ := List.mem_map.1 hc
    exact hnow
  have hpinned : (history around clock calls).state.pinned =
      some ⟨1704922205000000, .zone .utc, false⟩ := by decide +kernel
  have hshowing := (demoMode_history around hnow [] hclock hcalls).2.2.2
  exact ⟨hnow, hclock, hcalls, by decide +kernel, _, rfl, hpinned, hshowing _ hpinned⟩

end Clock

end ClockFace
