import ClockFace.Proofs.ClockHistory

/-! # The zone of a demo instant

A demo instant keeps the zone in which it was taken. It is taken anew, in the zone that the
clock then has, when the demo mode is entered, and by a demo time in milliseconds; a demo
time of day only moves the instant that is pinned already. A change of zone leaves it alone.

`Clock.Log` notes the commands of a run, the last one first, and `pinnedIn?` looks back in it
for the last command that took the demo instant anew (`Clock.takesAnew`).
`Log.Attributed` ties the pinned instant to that command.

## Key results

- `frame_of_demoInstant`: the zone of the instant that a demo time makes
- `frame_after_demoCommand`: where a pinned instant comes from
- `attributed_ofCalls`: the zone of the pinned instant after any run
- `frame_currentInstant_eq_iff`: when the current instant is in the zone that is named
-/

namespace ClockFace

/-! ## Names -/

namespace ZoneName

/-- A setting names a zone, which may not exist. -/
def isGiven (name : Option String) : Bool :=
  name.any (!·.isEmpty)

/-- A setting that names a zone resolves to the zone of that name. -/
theorem exists_of_resolve {zones : ZoneTable} {name : Option String} {zone : Option Zone}
    (h : resolve zones name = .ok zone) (hname : isGiven name = true) :
    ∃ n z, name = some n ∧ find zones n = .ok z ∧ zone = some z := by
  cases name with
  | none => cases hname
  | some n =>
    have hempty : n.isEmpty = false := by simpa [isGiven] using hname
    rw [resolve, hempty] at h
    obtain ⟨z, hz, rfl⟩ := of_map_eq_ok h
    exact ⟨n, z, rfl, hz, rfl⟩

end ZoneName

/-! ## Frames -/

namespace Instant

variable {i j : Instant} {z : Zone}

theorem frame_of_addWall {micros : Int} (h : i.addWall micros = .ok j) : j.frame = i.frame := by
  obtain ⟨wall, -, hj⟩ := of_bind_eq_ok h
  obtain rfl := Except.ok.inj hj
  rfl

theorem frame_of_atMoment {moment : Int} (h : atMoment z moment = .ok i) : i.frame = .zone z := by
  obtain ⟨wall, -, hi⟩ := of_bind_eq_ok h
  obtain rfl := Except.ok.inj hi
  rfl

theorem frame_of_inZone (h : i.inZone z = .ok j) : j.frame = .zone z := by
  rw [inZone] at h
  split at h
  · next hframe =>
    obtain rfl := Except.ok.inj h
    exact hframe
  · obtain ⟨moment, -, hj⟩ := of_bind_eq_ok h
    exact frame_of_atMoment hj

end Instant

/-- A time that tells a moment: all but the floating instants do. -/
def GivenTime.isMoment : GivenTime → Bool
  | .instant i => i.frame ≠ .floating
  | _ => true

namespace Clock

open Attempt

section Frames

variable {localZone : Zone} {z : Zone} {clock : Clock} {base i : Instant}

/-- A moment is placed in the zone of the clock. -/
theorem frame_of_place {t : GivenTime} (ht : t.isMoment = true)
    (h : place localZone (some z) t = .ok i) : i.frame = .zone z := by
  cases t with
  | seconds s =>
    obtain ⟨moment, -, hi⟩ := of_bind_eq_ok h
    exact Instant.frame_of_atMoment hi
  | infinite => cases h
  | notNumber => cases h
  | instant j =>
    cases hframe : j.frame with
    | floating =>
      rw [GivenTime.isMoment, hframe] at ht
      cases ht
    | fixed offset =>
      simp only [place, hframe] at h
      exact Instant.frame_of_inZone h
    | zone other =>
      simp only [place, hframe] at h
      exact Instant.frame_of_inZone h

/-- The arguments of a demo command give a demo time in milliseconds. -/
def givesMoment (args : Config.Fields) : Bool :=
  match (args.value? "millis").getD .null with
  | .null => false
  | _ => true

/-- A demo time in milliseconds makes an instant in the zone of the clock; any other one keeps
the zone of the instant that it starts from. -/
theorem frame_of_demoInstant {args : Config.Fields} (hzone : clock.zone = some z)
    (h : demoInstant localZone clock base args = .ok i) :
    i.frame = if givesMoment args then .zone z else base.frame := by
  cases hmillis : (args.value? "millis").getD .null with
  | null =>
    simp only [demoInstant, hmillis] at h
    simp only [givesMoment, hmillis]
    obtain ⟨time, -, hi⟩ := of_bind_eq_ok h
    cases time with
    | none =>
      obtain rfl := Except.ok.inj hi
      rfl
    | some time => exact Instant.frame_of_addWall hi
  | _ =>
    simp only [demoInstant, hmillis, hzone] at h
    simp only [givesMoment, hmillis]
    obtain ⟨whole, -, hwhole⟩ := of_bind_eq_ok h
    obtain ⟨seconds, -, hi⟩ := of_bind_eq_ok hwhole
    exact frame_of_place rfl hi

end Frames

/-! ## Commands -/

/-- A source of the time that gives instants in the zone it is asked for. -/
def AnswersInZone (now : Option Zone → Except Failure Instant) : Prop :=
  ∀ z i, now (some z) = .ok i → i.frame = .zone z

section Demo

variable {around : Surroundings} {s : Session Clock}

/-- Asking for the time gives what the source has for the zone, and changes nothing. -/
theorem outcome_askTime (around : Surroundings) (s : Session Clock) :
    outcome (askTime around) s = around.now s.state.zone :=
  rfl

theorem state_after_askTime (around : Surroundings) (s : Session Clock) :
    (after (askTime around) s).state = s.state :=
  rfl

/-- The mode of a clock, and the instant that is pinned. -/
def demoState (c : Clock) : Bool × Option Instant :=
  (c.demo, c.pinned)

/-- The instant that a demo time starts from: the pinned one, or else the current time. -/
def demoBase (around : Surroundings) (clock : Clock) : Except Failure Instant :=
  match clock.pinned with
  | some i => .ok i
  | none => around.now clock.zone

/-- The instant that a demo command pins if nothing fails; a command that pins none has no such
instant. -/
def newlyPinned? (around : Surroundings) (clock : Clock) (name : String) (args : Config.Fields) :
    Option (Except Failure Instant) :=
  if !clock.demo && name = "enter" then some (around.now clock.zone)
  else if clock.demo && name = "clock" then
    some (do demoInstant around.localZone clock (← demoBase around clock) args)
  else none

/-- Pinning the instant that an attempt gives ends as the attempt does. -/
theorem pin_run {a : Attempt Clock Instant} (note : Instant → Notice)
    (ha : (after a s).state.demoState = s.state.demoState) :
    let pin : Attempt Clock Unit := do
      let instant ← a
      Attempt.change fun c => { c with pinned := some instant }
      Attempt.notice (note instant)
    outcome pin s = (outcome a s).map (fun _ => ()) ∧
      (after pin s).state.demoState =
        (s.state.demo, (outcome a s).toOption.or s.state.pinned) := by
  intro pin
  simp only [pin, outcome_bind, after_bind]
  cases outcome a s with
  | error e => exact ⟨rfl, ha⟩
  | ok i => exact ⟨rfl, congrArg (·, some i) (congrArg Prod.fst ha)⟩

/-- Entering the demo mode pins the current time, if there is one. -/
theorem demoCommand_enter_run (around : Surroundings) (hdemo : s.state.demo = false)
    (args : Config.Fields) :
    outcome (demoCommand around "enter" args) s =
        (around.now s.state.zone).map (fun _ => ()) ∧
      (after (demoCommand around "enter" args) s).state.demoState =
        (true, (around.now s.state.zone).toOption.or s.state.pinned) := by
  have henter : (!s.state.demo && "enter" = "enter") = true := by rw [hdemo]; rfl
  rw [demoCommand, outcome_bind, after_bind, outcome_state, after_state]
  dsimp only
  rw [if_pos henter]
  -- The mode is entered first, which leaves the pinned instant alone
  exact pin_run (s := ⟨{ s.state with demo := true }, s.events⟩) (a := askTime around)
    (fun _ => .demoEntered) rfl

/-- Setting a demo time pins the instant that it makes, if it makes one. -/
theorem demoCommand_clock_run (around : Surroundings) (hdemo : s.state.demo = true)
    (args : Config.Fields) :
    let made := do demoInstant around.localZone s.state (← demoBase around s.state) args
    outcome (demoCommand around "clock" args) s = made.map (fun _ => ()) ∧
      (after (demoCommand around "clock" args) s).state.demoState =
        (s.state.demo, made.toOption.or s.state.pinned) := by
  have henter : ¬(!s.state.demo && "clock" = "enter") = true := by rw [hdemo]; decide
  have hexit : ¬(s.state.demo && "clock" = "exit") = true := by rw [hdemo]; decide
  have hclock : (s.state.demo && "clock" = "clock") = true := by rw [hdemo]; rfl
  rw [demoCommand, outcome_bind, after_bind, outcome_state, after_state]
  dsimp only
  rw [if_neg henter, if_neg hexit, if_pos hclock, demoBase]
  cases hpinned : s.state.pinned with
  | some base =>
    have hrun := pin_run (s := s)
      (a := Attempt.ofExcept (demoInstant around.localZone s.state base args)) .demoClockSet rfl
    rw [hpinned] at hrun
    exact hrun
  | none =>
    -- Nothing is pinned in demo mode where the time was refused on entering it
    rw [outcome_bind, after_bind, outcome_askTime]
    cases around.now s.state.zone with
    | error e => exact ⟨rfl, congrArg (s.state.demo, ·) hpinned⟩
    | ok base =>
      have hrun := pin_run (s := after (askTime around) s)
        (a := Attempt.ofExcept (demoInstant around.localZone s.state base args)) .demoClockSet rfl
      rw [state_after_askTime, hpinned] at hrun
      exact hrun

/-- A demo command that pins an instant ends as that does, and leaves it pinned. -/
theorem demoCommand_of_newlyPinned {name : String} {args : Config.Fields}
    {result : Except Failure Instant}
    (h : newlyPinned? around s.state name args = some result) :
    outcome (demoCommand around name args) s = result.map (fun _ => ()) ∧
      (after (demoCommand around name args) s).state.pinned =
        result.toOption.or s.state.pinned := by
  rw [newlyPinned?] at h
  split at h
  · next henter =>
    obtain ⟨hdemo, hname⟩ := Bool.and_eq_true_iff.1 henter
    obtain rfl := of_decide_eq_true hname
    obtain rfl := Option.some.inj h
    rw [Bool.not_eq_true'] at hdemo
    obtain ⟨houtcome, hstate⟩ := demoCommand_enter_run around hdemo args
    exact ⟨houtcome, congrArg Prod.snd hstate⟩
  · split at h
    · next hclock =>
      obtain ⟨hdemo, hname⟩ := Bool.and_eq_true_iff.1 hclock
      obtain rfl := of_decide_eq_true hname
      obtain rfl := Option.some.inj h
      obtain ⟨houtcome, hstate⟩ := demoCommand_clock_run around hdemo args
      exact ⟨houtcome, congrArg Prod.snd hstate⟩
    · cases h

/-- A demo command that pins no instant leaves none, or the one that was pinned before. -/
theorem pinned_of_newlyPinned_eq_none {name : String} {args : Config.Fields}
    (h : newlyPinned? around s.state name args = none) :
    (after (demoCommand around name args) s).state.pinned = none ∨
      (after (demoCommand around name args) s).state.pinned = s.state.pinned := by
  simp only [demoCommand, after_bind, outcome_state, after_state]
  rw [newlyPinned?] at h
  split at h
  · cases h
  · next henter =>
    split at h
    · cases h
    · next hclock =>
      rw [if_neg henter]
      split
      · exact .inl rfl
      · exact .inr rfl

/-- The demo command takes the demo instant anew: from the current time, or from a demo time in
milliseconds. -/
def takesAnew (clock : Clock) (name : String) (args : Config.Fields) : Bool :=
  if clock.demo then name = "clock" && (givesMoment args || clock.pinned.isNone)
  else name = "enter"

theorem takesAnew_of_newlyPinned_eq_none {clock : Clock} {name : String} {args : Config.Fields}
    (h : newlyPinned? around clock name args = none) : takesAnew clock name args = false := by
  rw [newlyPinned?] at h
  cases hdemo : clock.demo <;> simp_all [takesAnew]

/-- An instant that is taken anew is in the zone of the clock; any other one is in that of the
instant that was pinned before. -/
theorem frame_of_newlyPinned (hnow : AnswersInZone around.now) {clock : Clock} {z : Zone}
    (hzone : clock.zone = some z) {name : String} {args : Config.Fields} {i : Instant}
    (h : newlyPinned? around clock name args = some (.ok i)) :
    if takesAnew clock name args then i.frame = .zone z
    else ∃ base, clock.pinned = some base ∧ i.frame = base.frame := by
  rw [newlyPinned?] at h
  split at h
  · next henter =>
    obtain ⟨hdemo, hname⟩ := Bool.and_eq_true_iff.1 henter
    rw [Bool.not_eq_true'] at hdemo
    have hanew : takesAnew clock name args = true := by
      rw [takesAnew, if_neg (ne_true_of_eq_false hdemo), hname]
    have hi := Option.some.inj h
    rw [hzone] at hi
    rw [if_pos hanew]
    exact hnow z i hi
  · split at h
    · next hclock =>
      obtain ⟨hdemo, hname⟩ := Bool.and_eq_true_iff.1 hclock
      have hanew : takesAnew clock name args = (givesMoment args || clock.pinned.isNone) := by
        rw [takesAnew, if_pos hdemo, hname, Bool.true_and]
      obtain ⟨base, hbase, hi⟩ := of_bind_eq_ok (Option.some.inj h)
      have hframe := frame_of_demoInstant hzone hi
      rw [hanew, hframe]
      -- A time of day keeps the frame of its base, which only a pinned instant brings along
      rw [demoBase] at hbase
      cases hpinned : clock.pinned with
      | some kept =>
        rw [hpinned] at hbase
        obtain rfl := Except.ok.inj hbase
        cases givesMoment args with
        | true => exact rfl
        | false => exact ⟨kept, rfl, rfl⟩
      | none =>
        rw [hpinned, hzone] at hbase
        have hbaseFrame := hnow z base hbase
        cases givesMoment args with
        | true => exact rfl
        | false => exact hbaseFrame
    · cases h

/-- Where the instant comes from that a demo command leaves pinned. -/
theorem frame_after_demoCommand (hnow : AnswersInZone around.now) {z : Zone}
    (hzone : s.state.zone = some z) {name : String} {args : Config.Fields} {i : Instant}
    (hpinned : (after (demoCommand around name args) s).state.pinned = some i) :
    if (outcome (demoCommand around name args) s).isOk && takesAnew s.state name args then
      i.frame = .zone z
    else ∃ base, s.state.pinned = some base ∧ i.frame = base.frame := by
  cases hnew : newlyPinned? around s.state name args with
  | none =>
    rw [takesAnew_of_newlyPinned_eq_none hnew, Bool.and_false]
    obtain hnone | hsame := pinned_of_newlyPinned_eq_none hnew
    · rw [hnone] at hpinned
      cases hpinned
    · exact ⟨i, hsame.symm.trans hpinned, rfl⟩
  | some result =>
    obtain ⟨houtcome, hafter⟩ := demoCommand_of_newlyPinned hnew
    rw [houtcome]
    rw [hafter] at hpinned
    cases result with
    | error e => exact ⟨i, hpinned, rfl⟩
    | ok j =>
      obtain rfl := Option.some.inj hpinned
      exact frame_of_newlyPinned hnow hzone hnew

end Demo

/-! ## Clocks with a zone -/

/-- A sound clock whose configuration names a zone. -/
structure Zoned (zones : ZoneTable) (source : FormatSource) (c : Clock) : Prop
    extends Sound zones source c where
  named : ZoneName.isGiven c.config.timezone = true

/-- Such a clock has the zone that its configuration names. -/
theorem Zoned.exists_zone {zones : ZoneTable} {source : FormatSource} {c : Clock}
    (h : Zoned zones source c) :
    ∃ name z, c.config.timezone = some name ∧ ZoneName.find zones name = .ok z ∧
      c.zone = some z :=
  ZoneName.exists_of_resolve h.zone h.named

/-- The configurations and the changes of zone in commands name zones, which may not exist. -/
def NamesZone : Command → Prop
  | .updateConfig config => ZoneName.isGiven config.timezone = true
  | .changeTimezone name => ZoneName.isGiven name = true
  | .changeLocale _ | .demo _ _ | .render _ => True

instance : DecidablePred NamesZone
  | .updateConfig config => inferInstanceAs (Decidable (ZoneName.isGiven config.timezone = true))
  | .changeTimezone name => inferInstanceAs (Decidable (ZoneName.isGiven name = true))
  | .changeLocale _ | .demo _ _ | .render _ => inferInstanceAs (Decidable True)

/-- A configuration that names a zone is followed by another one that does. -/
theorem NamesZone.isGiven_timezone {command : Command} (h : NamesZone command) {c : Clock}
    (hnamed : ZoneName.isGiven c.config.timezone = true) {config : Config}
    (hsent : sentConfig? c command = some config) : ZoneName.isGiven config.timezone = true := by
  cases command with
  | updateConfig sent => cases hsent; exact h
  | changeLocale tag => cases hsent; exact hnamed
  | changeTimezone name => cases hsent; exact h
  | demo name args => cases hsent
  | render time => cases hsent

/-- Commands that name zones, all carried out with one source of the time. -/
theorem namesZone_of_mem_map {commands : List Command}
    (h : ∀ command ∈ commands, NamesZone command) (localZone : Zone)
    {now : Option Zone → Except Failure Instant} (hnow : AnswersInZone now) :
    ∀ c ∈ commands.map (Call.mk localZone now), NamesZone c.command ∧ AnswersInZone c.now := by
  intro c hc
  obtain ⟨command, hcommand, rfl⟩ := List.mem_map.1 hc
  exact ⟨h command hcommand, hnow⟩

section Zoned

variable {around : Surroundings}

/-- The instant that is pinned stays through a change of zone, as through everything but demo
commands. -/
theorem keeps_pinned (around : Surroundings) {command : Command} (hnames : NamesZone command)
    (hdemo : ∀ name args, command ≠ .demo name args) (pinned : Option Instant) :
    Keeps (fun c => Zoned around.zones around.formats c ∧ c.pinned = pinned)
      (perform around command) := by
  have hrun : Keeps (fun c => Sound around.zones around.formats c ∧
      ZoneName.isGiven c.config.timezone = true ∧ c.pinned = pinned) (perform around command) :=
    keeps_perform_and
      (fun _ _ hc hsent _ _ hother => ⟨hnames.isGiven_timezone hc.1 hsent, hother.2⟩)
      (fun name args hsame => absurd hsame (hdemo name args)) fun _ _ hc => hc
  intro s hs
  obtain ⟨hsound, hnamed, hpinned⟩ := hrun s ⟨hs.1.toSound, hs.1.named, hs.2⟩
  exact ⟨⟨hsound, hnamed⟩, hpinned⟩

end Zoned

/-! ## Logs -/

/-- A command, the clock that it found, and whether it came to its end without failing. -/
structure Entry where
  found : Clock
  command : Command
  done : Bool

/-- The command took the demo instant anew. -/
def Entry.tookAnew (e : Entry) : Bool :=
  match e.command with
  | .demo name args => e.done && takesAnew e.found name args
  | _ => false

/-- The zone of the clock when the demo instant was last taken anew. -/
def pinnedIn? (entries : List Entry) : Option Zone :=
  (entries.find? Entry.tookAnew).bind fun e => e.found.zone

theorem pinnedIn?_cons (e : Entry) (entries : List Entry) :
    pinnedIn? (e :: entries) = if e.tookAnew then e.found.zone else pinnedIn? entries := by
  rw [pinnedIn?, List.find?_cons]
  cases e.tookAnew <;> rfl

/-- What a call on a session does. -/
def Call.entry (around : Surroundings) (s : Session Clock) (c : Call) : Entry :=
  ⟨s.state, c.command,
    (outcome (perform { around with localZone := c.localZone, now := c.now } c.command) s).isOk⟩

/-- The session of a clock and the commands that led there, the last one first. -/
structure Log where
  session : Session Clock
  entries : List Entry

namespace Log

/-- One more call. -/
def add (around : Surroundings) (log : Log) (c : Call) : Log :=
  ⟨c.after around log.session, c.entry around log.session :: log.entries⟩

/-- The log of calls on a clock, the first one first. -/
def ofCalls (around : Surroundings) (clock : Clock) (calls : List Call) : Log :=
  calls.foldl (add around) ⟨⟨clock, []⟩, []⟩

/-- The clock has the zone that its configuration names, and its demo instant is in the zone
that the log says. -/
structure Attributed (zones : ZoneTable) (source : FormatSource) (log : Log) : Prop where
  zoned : Zoned zones source log.session.state
  pinned : ∀ i, log.session.state.pinned = some i →
    ∃ z, pinnedIn? log.entries = some z ∧ i.frame = .zone z

end Log

/-- Following a demo command is all there is to it. -/
theorem perform_demo_eq (around : Surroundings) (s : Session Clock) (name : String)
    (args : Config.Fields) :
    outcome (perform around (.demo name args)) s =
        (outcome (demoCommand around name args) s).map (fun _ => none) ∧
      after (perform around (.demo name args)) s = after (demoCommand around name args) s :=
  ⟨outcome_bind_pure _ _ s, after_bind_pure _ _ s⟩

variable {around : Surroundings} {log : Log}

/-- A demo command leaves the demo instant in the zone that the log says. -/
theorem attributed_add_demo (h : log.Attributed around.zones around.formats) (localZone : Zone)
    {now : Option Zone → Except Failure Instant} (hnow : AnswersInZone now) (name : String)
    (args : Config.Fields) : (log.add around ⟨localZone, now, .demo name args⟩).Attributed
      around.zones around.formats := by
  let there : Surroundings := { around with localZone, now }
  let entry := Call.entry around log.session ⟨localZone, now, .demo name args⟩
  obtain ⟨-, z, -, -, hzone⟩ := h.zoned.exists_zone
  obtain ⟨houtcome, hafter⟩ := perform_demo_eq there log.session name args
  have htook : entry.tookAnew = ((outcome (demoCommand there name args) log.session).isOk &&
      takesAnew log.session.state name args) := by
    have hdone : entry.done = (outcome (demoCommand there name args) log.session).isOk :=
      (congrArg Except.isOk houtcome).trans (isOk_map _ _)
    rw [← hdone]
    rfl
  have hzoned : Keeps (Zoned around.zones around.formats) (demoCommand there name args) :=
    keeps_demoCommand (fun _ _ _ hc => ⟨⟨hc.zone, hc.selector⟩, hc.named⟩) there name args
  have hsession : (log.add around ⟨localZone, now, .demo name args⟩).session =
      after (demoCommand there name args) log.session := hafter
  refine ⟨hsession ▸ hzoned log.session h.zoned, fun i hpinned => ?_⟩
  rw [hsession] at hpinned
  have hframe := frame_after_demoCommand hnow hzone hpinned
  rw [← htook] at hframe
  rw [show (log.add around _).entries = entry :: log.entries from rfl, pinnedIn?_cons]
  -- Either this command is the last one that took the instant anew, or the log knows it already
  cases hanew : entry.tookAnew with
  | true =>
    rw [hanew] at hframe
    exact ⟨z, hzone, hframe⟩
  | false =>
    rw [hanew] at hframe
    obtain ⟨base, hbase, hsame⟩ := hframe
    obtain ⟨kept, hkept, hin⟩ := h.pinned base hbase
    exact ⟨kept, hkept, hsame.trans hin⟩

/-- Every command leaves the demo instant in the zone that the log says, also one that fails. -/
theorem attributed_add (h : log.Attributed around.zones around.formats) {c : Call}
    (hnames : NamesZone c.command) (hnow : AnswersInZone c.now) :
    (log.add around c).Attributed around.zones around.formats := by
  obtain ⟨localZone, now, command⟩ := c
  -- All but demo commands leave the pinned instant, and the log looks past them
  have hother (hdemo : ∀ name args, command ≠ .demo name args)
      (hlog : pinnedIn? (log.add around ⟨localZone, now, command⟩).entries =
        pinnedIn? log.entries) :
      (log.add around ⟨localZone, now, command⟩).Attributed around.zones around.formats := by
    obtain ⟨hzoned, hpinned⟩ := keeps_pinned { around with localZone, now } hnames hdemo _
      log.session ⟨h.zoned, rfl⟩
    refine ⟨hzoned, fun i hi => ?_⟩
    rw [hlog]
    exact h.pinned i (hpinned.symm.trans hi)
  cases command with
  | demo name args => exact attributed_add_demo h localZone hnow name args
  | updateConfig config => exact hother (fun _ _ => Command.noConfusion) rfl
  | changeLocale tag => exact hother (fun _ _ => Command.noConfusion) rfl
  | changeTimezone name => exact hother (fun _ _ => Command.noConfusion) rfl
  | render time => exact hother (fun _ _ => Command.noConfusion) rfl

/-- Whatever a clock is told, and whatever fails, its demo instant is in the zone that the
log says. -/
theorem attributed_ofCalls {clock : Clock} (h : Zoned around.zones around.formats clock)
    (hpinned : clock.pinned = none) {calls : List Call}
    (hcalls : ∀ c ∈ calls, NamesZone c.command ∧ AnswersInZone c.now) :
    (Log.ofCalls around clock calls).Attributed around.zones around.formats := by
  have hfresh : Log.Attributed around.zones around.formats ⟨⟨clock, []⟩, []⟩ :=
    ⟨h, fun i hi => by rw [hpinned] at hi; cases hi⟩
  exact List.foldlRecOn calls (Log.add around) hfresh
    fun _ hlog c hc => attributed_add hlog (hcalls c hc).1 (hcalls c hc).2

/-! ## The current instant -/

/-- A sound clock shows the current instant with the face of its source. -/
theorem outcome_render_none {s : Session Clock} (h : Sound around.zones around.formats s.state) :
    outcome (render around none) s = (do
      let instant ← outcome (currentInstant around) s
      around.formats.face around.dates s.state.config instant) := by
  rw [render, outcome_bind, outcome_state]
  dsimp only
  rw [outcome_bind, after_state]
  cases outcome (currentInstant around) s with
  | error e => rfl
  | ok instant =>
    exact outcome_face (keeps_currentInstant around s h).selector s.state.config instant

/-- The current instant is in the zone where it was pinned, or else in that of the clock. -/
theorem frame_of_currentInstant (h : log.Attributed around.zones around.formats)
    (hnow : AnswersInZone around.now) {z : Zone} (hzone : log.session.state.zone = some z)
    {i : Instant} (hi : outcome (currentInstant around) log.session = .ok i) :
    ∃ y, i.frame = .zone y ∧
      if log.session.state.demo = true ∧ log.session.state.pinned.isSome = true then
        pinnedIn? log.entries = some y
      else y = z := by
  have hasked (hi : around.now log.session.state.zone = .ok i) : i.frame = .zone z := by
    rw [hzone] at hi
    exact hnow z i hi
  simp only [currentInstant, outcome_bind, outcome_state, after_state] at hi
  cases hdemo : log.session.state.demo with
  | false =>
    rw [hdemo] at hi
    exact ⟨z, hasked hi, by simp⟩
  | true =>
    cases hpinned : log.session.state.pinned with
    | none =>
      rw [hdemo, hpinned] at hi
      exact ⟨z, hasked hi, by simp⟩
    | some kept =>
      rw [hdemo, hpinned] at hi
      obtain rfl := Except.ok.inj hi
      obtain ⟨y, hy, hframe⟩ := h.pinned kept hpinned
      exact ⟨y, hframe, by simpa using hy⟩

/-- When a clock shows its own time in its zone.

Every configuration of the run names a zone, and the source of the time answers in the zone
that it is asked for. Then the clock has the zone that its configuration names, and places
all moments that it is given there. What it shows of its own accord is the current instant:
this is in that zone too, unless the clock shows a demo instant that was last taken anew
while it had another zone. -/
theorem frame_currentInstant_eq_iff (around : Surroundings) (hnow : AnswersInZone around.now)
    (requests : List Selector.Request) {config : Config} {clock : Clock}
    (h : withSelector around.zones (Selector.history around.formats requests).state config =
      .ok clock)
    (hconfig : ZoneName.isGiven config.timezone = true) {calls : List Call}
    (hcalls : ∀ c ∈ calls, NamesZone c.command ∧ AnswersInZone c.now) :
    let log := Log.ofCalls around clock calls
    let s := log.session
    ∃ name z, s.state.config.timezone = some name ∧ ZoneName.find around.zones name = .ok z ∧
      (∀ t : GivenTime, t.isMoment = true →
        outcome (render around (some t)) s = (do
          let i ← place around.localZone s.state.zone t
          around.formats.face around.dates s.state.config i) ∧
        ∀ i, place around.localZone s.state.zone t = .ok i → i.frame = .zone z) ∧
      outcome (render around none) s = (do
        let i ← outcome (currentInstant around) s
        around.formats.face around.dates s.state.config i) ∧
      ∀ i, outcome (currentInstant around) s = .ok i →
        (i.frame = .zone z ↔
          (s.state.demo = true → s.state.pinned.isSome = true →
            pinnedIn? log.entries = some z)) := by
  intro log s
  have hsound := sound_of_withSelector (Selector.sound_history around.formats requests) h
  rw [withSelector_eq] at h
  obtain ⟨zone, -, rfl⟩ := of_map_eq_ok h
  have hlog : log.Attributed around.zones around.formats :=
    attributed_ofCalls ⟨hsound, hconfig⟩ rfl hcalls
  obtain ⟨name, z, hname, hfind, hzone⟩ := hlog.zoned.exists_zone
  refine ⟨name, z, hname, hfind, fun t ht => ⟨?_, fun i hi => ?_⟩, ?_, fun i hi => ?_⟩
  · exact outcome_render hlog.zoned.toSound t
  · rw [show s.state.zone = some z from hzone] at hi
    exact frame_of_place ht hi
  · exact outcome_render_none hlog.zoned.toSound
  · obtain ⟨y, hframe, hy⟩ := frame_of_currentInstant hlog hnow hzone hi
    rw [hframe, Frame.zone.injEq]
    by_cases hshown : s.state.demo = true ∧ s.state.pinned.isSome = true
    · rw [if_pos hshown] at hy
      rw [hy, Option.some.injEq]
      exact ⟨fun hsame _ _ => hsame, fun hsame => hsame hshown.1 hshown.2⟩
    · rw [if_neg hshown] at hy
      exact ⟨fun _ hdemo hpinned => absurd ⟨hdemo, hpinned⟩ hshown, fun _ => hy⟩

/-- A demo instant is pinned in one zone, moved to a time of day in another one, and then set
to the start of 1970. Only this takes it to the zone of the clock. -/
theorem frame_currentInstant_eq_iff_tokyo :
    let around : Surroundings :=
      ⟨DateText.write, .ofSkeletons .localeData, Zone.table, .utc,
        (atMoment .utc · 1704899045000000)⟩
    let config : Config := { timezone := some "UTC" }
    let clock : Clock := ⟨config, some .utc, false, none, Selector.fresh⟩
    let calls : List Call :=
      [.demo "enter" [], .changeTimezone (some "Asia/Tokyo"),
        .demo "clock" [("hhmm", .text "0930")], .demo "clock" [("millis", .text "0")]].map
          (Call.mk around.localZone around.now)
    let log := Log.ofCalls around clock calls
    AnswersInZone around.now ∧
      withSelector around.zones (Selector.history around.formats []).state config = .ok clock ∧
      ZoneName.isGiven config.timezone = true ∧
      (∀ c ∈ calls, NamesZone c.command ∧ AnswersInZone c.now) ∧
      log.session.state.demo = true ∧ log.session.state.pinned.isSome = true ∧
      pinnedIn? log.entries = some .tokyo ∧
      pinnedIn? log.entries.tail = some .utc ∧
      ∃ i, outcome (currentInstant around) log.session = .ok i ∧ i.wall = 32400000000 ∧
        i.frame = .zone .tokyo := by
  intro around config clock calls log
  have hnow : AnswersInZone around.now := fun _ _ hi => Instant.frame_of_atMoment hi
  have hresolve : ZoneName.resolve around.zones config.timezone = .ok clock.zone :=
    eq_ok_of_toOption (by decide +kernel)
  have hclock : withSelector around.zones (Selector.history around.formats []).state config =
      .ok clock := withSelector_of_resolve hresolve _
  have hcalls : ∀ c ∈ calls, NamesZone c.command ∧ AnswersInZone c.now :=
    namesZone_of_mem_map (by decide) around.localZone hnow
  have hzone : ZoneName.find around.zones "Asia/Tokyo" = .ok .tokyo :=
    eq_ok_of_toOption (by decide +kernel)
  have hpinnedIn : pinnedIn? log.entries = some .tokyo := by decide +kernel
  have hi : outcome (currentInstant around) log.session =
      .ok ⟨32400000000, .zone .tokyo, false⟩ :=
    eq_ok_of_toOption (by decide +kernel)
  obtain ⟨name, z, hname, hfind, -, -, hiff⟩ :=
    frame_currentInstant_eq_iff around hnow [] hclock rfl hcalls
  have hname : name = "Asia/Tokyo" := Option.some.inj (hname.symm.trans (by decide +kernel))
  rw [hname, hzone] at hfind
  obtain rfl := Except.ok.inj hfind
  exact ⟨hnow, hclock, rfl, hcalls, by decide +kernel, by decide +kernel, hpinnedIn,
    by decide +kernel, _, hi, rfl, (hiff _ hi).2 fun _ _ => hpinnedIn⟩

/-- The instant that was pinned in one zone is still shown in it when the clock has another
one. -/
theorem frame_currentInstant_ne :
    let around : Surroundings :=
      ⟨DateText.write, .ofSkeletons .localeData, Zone.table, .utc,
        (atMoment .utc · 1704899045000000)⟩
    let config : Config := { timezone := some "UTC" }
    let clock : Clock := ⟨config, some .utc, false, none, Selector.fresh⟩
    let calls : List Call := [.demo "enter" [], .changeTimezone (some "Asia/Tokyo")].map
      (Call.mk around.localZone around.now)
    let s := (Log.ofCalls around clock calls).session
    AnswersInZone around.now ∧
      withSelector around.zones (Selector.history around.formats []).state config = .ok clock ∧
      ZoneName.isGiven config.timezone = true ∧
      (∀ c ∈ calls, NamesZone c.command ∧ AnswersInZone c.now) ∧
      s.state.config.timezone = some "Asia/Tokyo" ∧
      ZoneName.find around.zones "Asia/Tokyo" = .ok .tokyo ∧
      ∃ i, outcome (currentInstant around) s = .ok i ∧
        i.frame = .zone .utc ∧ i.frame ≠ .zone .tokyo := by
  intro around config clock calls s
  have hnow : AnswersInZone around.now := fun _ _ hi => Instant.frame_of_atMoment hi
  have hresolve : ZoneName.resolve around.zones config.timezone = .ok clock.zone :=
    eq_ok_of_toOption (by decide +kernel)
  have hclock : withSelector around.zones (Selector.history around.formats []).state config =
      .ok clock := withSelector_of_resolve hresolve _
  have hi : outcome (currentInstant around) s =
      .ok ⟨1704899045000000, .zone .utc, false⟩ :=
    eq_ok_of_toOption (by decide +kernel)
  exact ⟨hnow, hclock, rfl, namesZone_of_mem_map (by decide) around.localZone hnow,
    by decide +kernel, eq_ok_of_toOption (by decide +kernel), _, hi, rfl, by decide⟩

end Clock

end ClockFace
