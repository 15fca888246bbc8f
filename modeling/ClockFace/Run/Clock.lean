import ClockFace.Run.Render
import ClockFace.Setting.Whole
import ClockFace.Time.ZoneName

/-! # The clock

A clock keeps its configuration, the zone that the configuration names, a selector of time formats
and the demo state: whether the clock is in demo mode, and the instant that it then shows.

The operations are attempts on the clock. `Command` lists them, so that a run of a clock is a list of
commands, and `Clock.perform` carries one out. -/

namespace ClockFace

open Number

/-- What a clock works with: the writer of dates, the source of formats, the table of zones, the
zone of the machine and the source of the current time, which is asked for a zone, or for none to
mean the machine's. -/
structure Surroundings where
  dates : DateWriter
  formats : FormatSource
  zones : ZoneTable
  localZone : Zone
  now : Option Zone → Except Failure Instant

/-- A time to show: an instant, or seconds since the start of 1970. -/
inductive GivenTime where
  | instant (i : Instant)
  | seconds (s : Rat)
  /-- Seconds beyond double precision. -/
  | infinite
  /-- Seconds that are not a number. -/
  | notNumber

/-- The time that so many seconds since the start of 1970 give, in double precision. -/
def GivenTime.ofDecimal (d : Decimal) : GivenTime :=
  match d.toDouble? with
  | some s => .seconds s
  | none => .infinite

/-- The state of a clock. -/
structure Clock where
  config : Config
  zone : Option Zone
  demo : Bool
  pinned : Option Instant
  selector : Selector

/-- What a clock is told to do. -/
inductive Command where
  | updateConfig (config : Config)
  | changeLocale (tag : String)
  | changeTimezone (name : Option String)
  | demo (name : String) (args : Config.Fields)
  | render (time : Option GivenTime)

namespace Clock

/-- A clock with a configuration, whose zone must exist. -/
def ofConfig (zones : ZoneTable) (config : Config) : Except Failure Clock := do
  -- A zone that does not exist ends the update here, before anything has changed.
  let zone ← ZoneName.resolve zones config.timezone
  return { config, zone, demo := false, pinned := none, selector := Selector.fresh }

/-- The wall time at a moment in a zone, or in the machine's zone. -/
def atMoment (localZone : Zone) (zone : Option Zone) (moment : Int) : Except Failure Instant :=
  match zone with
  | some z => Instant.atMoment z moment
  | none => Instant.atMomentFixed localZone moment

/-- A time in a zone, or in the machine's zone. A floating instant stays as it is. -/
def place (localZone : Zone) (zone : Option Zone) : GivenTime → Except Failure Instant
  | .seconds s => Instant.momentOfSeconds s >>= atMoment localZone zone
  | .infinite => .error .epochRange
  | .notNumber => .error .timeNotNumber
  | .instant i =>
    match i.frame, zone with
    | .floating, _ => .ok i
    | _, some z => i.inZone z
    | _, none => i.inFixedOffset localZone

/-- Run an attempt on the selector. -/
def onSelector {α : Type} (a : Attempt Selector α) : Attempt Clock α :=
  a.zoom Clock.selector fun s c => { c with selector := s }

/-- Put a configuration into effect. A zone that is new must exist before anything changes; a new
locale drops the formats that are kept. -/
def updateConfig (zones : ZoneTable) (config : Config) : Attempt Clock Unit := do
  let previous ← Attempt.state
  let zone ←
    if config.timezone ≠ previous.config.timezone then
      Attempt.ofExcept (ZoneName.resolve zones config.timezone)
    else pure previous.zone
  Attempt.change fun c => { c with config, zone }
  if config.locale ≠ previous.config.locale then
    onSelector Selector.invalidate
  Attempt.notice (.configUpdated config)

/-- Follow a change of the system's locale. -/
def changeLocale (zones : ZoneTable) (tag : String) : Attempt Clock Unit := do
  let config := (← Attempt.state).config
  if tag ≠ config.locale then
    updateConfig zones { config with locale := tag }

/-- Follow a change of the display's zone. -/
def changeTimezone (zones : ZoneTable) (name : Option String) : Attempt Clock Unit := do
  let config := (← Attempt.state).config
  updateConfig zones { config with timezone := name }

/-- Ask for the current time in the clock's zone. -/
def askTime (around : Surroundings) : Attempt Clock Instant := do
  let zone := (← Attempt.state).zone
  Attempt.event (.askedTime zone)
  Attempt.ofExcept (around.now zone)

/-- The instant that the next tick shows: in demo mode the pinned one, else the current time. -/
def currentInstant (around : Surroundings) : Attempt Clock Instant := do
  let clock ← Attempt.state
  match clock.demo, clock.pinned with
  | true, some i => return i
  | _, _ => askTime around

/-- Render a tick for a given time, or for the current instant. -/
def render (around : Surroundings) (time : Option GivenTime) : Attempt Clock Face := do
  let clock ← Attempt.state
  let instant ← match time with
    | some t => Attempt.ofExcept (place around.localZone clock.zone t)
    | none => currentInstant around
  let formats ← onSelector (Selector.resolve around.formats clock.config.patternKey)
  renderFace around.dates formats clock.config.layout instant

/-- Seconds that a number of milliseconds makes, in double precision. -/
def secondsOfMillis (millis : Int) : Except Failure Rat :=
  match nearestDouble? ((millis : Rat) / 1000) with
  | some s => .ok s
  | none => .error .quotientRange

/-- The hours and the minutes of a demo time of four digits. -/
def readDemoTime (text : String) : Except Failure (Int × Int) := do
  let digits := text.toList
  if !digits.all Text.isDigit then throw (.demoTime text)
  let hours ← wholeOfText (String.ofList (digits.take 2))
  let minutes ← wholeOfText (String.ofList (digits.drop 2))
  return (hours, minutes)

/-- The demo time that a value gives: none if it is null or not of length four. -/
def demoTime? (v : Value) : Except Failure (Option (Int × Int)) :=
  match v with
  | .null => .ok none
  | .text s => if s.length = 4 then (readDemoTime s).map some else .ok none
  | .list items => if items.length = 4 then .error (.noDigits v) else .ok none
  | .object fields => if fields.length = 4 then .error (.noDigits v) else .ok none
  | _ => .error (.noLength v)

/-- The instant `base` with its hours and minutes moved to a demo time. Hours of a 12-hour clock
count from the start of the half of the day that `base` lies in. -/
def withDemoTime (hour24 : Bool) (base : Instant) (hours minutes : Int) : Except Failure Instant :=
  let hour := if hour24 then hours else base.hour / 12 * 12 + hours
  base.addWall (((hour - base.hour) * 3600 + (minutes - base.minute) * 60) * secondMicros)

/-- The demo instant that the arguments of a demo command ask for, starting from `base`: the moment
of so many milliseconds, or a time of day, or `base` itself. -/
def demoInstant (localZone : Zone) (clock : Clock) (base : Instant) (args : Config.Fields) :
    Except Failure Instant :=
  match (args.value? "millis").getD .null with
  | .null => do
    match ← demoTime? ((args.value? "hhmm").getD .null) with
    | none => return base
    | some (hours, minutes) => withDemoTime clock.config.hour24 base hours minutes
  | millis => do
    let seconds ← secondsOfMillis (← millis.whole)
    place localZone clock.zone (.seconds seconds)

/-- Follow a demo command. A command that does not fit the mode is ignored. -/
def demoCommand (around : Surroundings) (name : String) (args : Config.Fields) :
    Attempt Clock Unit := do
  let clock ← Attempt.state
  if !clock.demo && name = "enter" then
    -- The mode is entered before the time is asked for, and stays if asking fails.
    Attempt.change fun c => { c with demo := true }
    let instant ← askTime around
    Attempt.change fun c => { c with pinned := some instant }
    Attempt.notice .demoEntered
  else if clock.demo && name = "exit" then
    Attempt.change fun c => { c with demo := false, pinned := none }
    Attempt.notice .demoExited
  else if clock.demo && name = "clock" then
    let base ← match clock.pinned with
      | some i => pure i
      | none => askTime around
    let instant ← Attempt.ofExcept (demoInstant around.localZone clock base args)
    Attempt.change fun c => { c with pinned := some instant }
    Attempt.notice (.demoClockSet instant)

/-- Carry out a command; rendering gives a face. -/
def perform (around : Surroundings) : Command → Attempt Clock (Option Face)
  | .updateConfig config => do updateConfig around.zones config; return none
  | .changeLocale tag => do changeLocale around.zones tag; return none
  | .changeTimezone name => do changeTimezone around.zones name; return none
  | .demo name args => do demoCommand around name args; return none
  | .render time => return some (← render around time)

end Clock

end ClockFace
