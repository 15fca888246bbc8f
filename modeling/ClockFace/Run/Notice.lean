import ClockFace.Locale.Basic
import ClockFace.Setting.Config
import ClockFace.Time.Instant

/-! # Notices

What a running clock reports about itself, one constructor per report. `Notice.record` is the log
record of a notice: its level and its wording. -/

namespace ClockFace

/-- The levels of log records, from the least to the most severe. -/
inductive Level where
  | trace
  | debug
  | info
  | success
  | warning
  | error
  | critical
  deriving DecidableEq, Repr

namespace Level

/-- The severity of a level as a number. -/
def severity : Level → Nat
  | .trace => 5
  | .debug => 10
  | .info => 20
  | .success => 25
  | .warning => 30
  | .error => 40
  | .critical => 50

/-- The name of a level. -/
def name : Level → String
  | .trace => "TRACE"
  | .debug => "DEBUG"
  | .info => "INFO"
  | .success => "SUCCESS"
  | .warning => "WARNING"
  | .error => "ERROR"
  | .critical => "CRITICAL"

/-- Every level, from the least severe. -/
def all : List Level :=
  [.trace, .debug, .info, .success, .warning, .error, .critical]

/-- The level with a name. -/
def ofName? (name : String) : Option Level :=
  all.find? (·.name == name)

end Level

/-- A log record. -/
structure Record where
  level : Level
  message : String
  deriving DecidableEq, Repr

/-- What a clock reports about itself. -/
inductive Notice where
  /-- The time patterns of a locale were loaded. -/
  | skeletonsLoaded (tag : String) (skeletons : Skeletons)
  /-- Time formats were made for a key from a base pattern. -/
  | formatsCompiled (key : PatternKey) (base : List Char)
  /-- The formats kept for a key were dropped. -/
  | formatsDropped (key : PatternKey)
  /-- A new configuration is in effect. -/
  | configUpdated (config : Config)
  | demoEntered
  | demoExited
  /-- The demo time was set. -/
  | demoClockSet (instant : Instant)
  deriving DecidableEq, Repr

namespace Skeletons

/-- The patterns as log records show them. -/
def display (s : Skeletons) : String :=
  "TimeSkeletons(Hms=" ++ quotedString s.hourMinuteSecond24 ++ ", hms=" ++
    quotedString s.hourMinuteSecond12 ++ ", Hm=" ++ quotedString s.hourMinute24 ++ ", hm=" ++
    quotedString s.hourMinute12 ++ ")"

end Skeletons

namespace Notice

/-- The level of a notice. -/
def level : Notice → Level
  | .configUpdated _ | .demoEntered | .demoExited => .info
  | _ => .debug

/-- The wording of a notice. -/
def message : Notice → String
  | .skeletonsLoaded tag s => "Loaded time skeletons for " ++ tag ++ ": " ++ s.display
  | .formatsCompiled key base =>
    "Compiled time formatters for " ++ key.display ++ ": " ++ quotedString (String.ofList base)
  | .formatsDropped key => "Invalidating cached formatters for " ++ key.display
  | .configUpdated config => "Display config updated: " ++ (Value.object config.toFields).quoted
  | .demoEntered => "Entered demo mode"
  | .demoExited => "Exited demo mode"
  | .demoClockSet instant => "Demo clock set to " ++ instant.toIso

/-- The log record of a notice. -/
def record (n : Notice) : Record :=
  ⟨n.level, n.message⟩

end Notice

end ClockFace
