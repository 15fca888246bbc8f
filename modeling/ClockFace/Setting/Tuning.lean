import ClockFace.Setting.Config
import ClockFace.Setting.Whole

/-! # Tuning values

Tuning values are whole numbers, mostly written as texts, under keys of their own; most of them select
an option by its place. `Tuning.config` makes a configuration of them. Each key governs one setting,
a key without a value leaves the default, and the first value that cannot be used ends the reading. -/

namespace ClockFace.Tuning

/-- The key for showing the clock. -/
def showKey : String := "clock_show"

/-- The key for showing seconds. -/
def secondsKey : String := "clock_seconds"

/-- The key for the emphasis of the AM/PM run. -/
def emphasisKey : String := "clock_am_pm_style"

/-- The key for the place of the clock. -/
def placementKey : String := "clock_style"

/-- The key for showing the date. -/
def dateShowKey : String := "clock_date_SHOW"

/-- The key for the case of the date. -/
def dateStyleKey : String := "clock_date_style"

/-- The key for the side of the date. -/
def datePositionKey : String := "clock_date_position"

/-- The key for the date pattern. -/
def dateFormatKey : String := "clock_date_format"

/-- Every tuning key. -/
def keys : List String :=
  [showKey, secondsKey, emphasisKey, placementKey, dateShowKey, dateStyleKey, datePositionKey,
    dateFormatKey]

/-- The options of the emphasis, in the order of their numbers. -/
def emphasisOptions : List Emphasis := [.none, .small, .normal]

/-- The options of the place of the clock, in the order of their numbers. -/
def placementOptions : List Placement := [.right, .center, .left]

/-- The options of the date's visibility, in the order of their numbers. -/
def dateShowOptions : List DateVisibility := [.none, .small, .normal]

/-- The options of the date's case, in the order of their numbers. -/
def dateStyleOptions : List DateCase := [.asIs, .lower, .upper]

/-- The options of the date's side, in the order of their numbers. -/
def datePositionOptions : List DatePosition := [.left, .right]

/-- What the host knows besides the tuning values, not checked yet. -/
structure Host where
  hour24 : Value := .bool false
  locale : Value := .text "en_US"
  timezone : Value := .null

/-- The value of a key; null counts as no value. -/
def value? (values : Config.Fields) (key : String) : Option Value :=
  match values.value? key with
  | none | some .null => none
  | some v => some v

/-- The option that the value of a key selects, or the default. -/
def choice {α : Type} (values : Config.Fields) (key : String) (options : List α) (default : α) :
    Except Failure α :=
  match value? values key with
  | none => .ok default
  | some v =>
    match v.whole with
    | .error e => .error e
    | .ok n =>
      match if n < 0 then none else options[n.toNat]? with
      | some option => .ok option
      | none => .error (.tuningRange v key)

/-- Whether the number of a key passes a test, or the default. -/
def test (values : Config.Fields) (key : String) (accepts : Int → Bool) (default : Bool) :
    Except Failure Bool :=
  match value? values key with
  | none => .ok default
  | some v => v.whole.map accepts

/-- The configuration that tuning values make. A host with a 24-hour clock leaves the AM/PM run out,
whatever the values say about it, but they must still be usable. -/
def config (values : Config.Fields) (host : Host) : Except Failure Config := do
  -- The order of these lines decides which of several bad values is reported.
  let emphasis ← choice values emphasisKey emphasisOptions .none
  let showSeconds ← test values secondsKey (· != 0) false
  let dateVisibility ← choice values dateShowKey dateShowOptions .none
  let dateCase ← choice values dateStyleKey dateStyleOptions .asIs
  let datePosition ← choice values datePositionKey datePositionOptions .left
  let showClock ← test values showKey (· == 1) true
  let placement ← choice values placementKey placementOptions .right
  Config.ofFields
    [("hour24", host.hour24),
     ("show_seconds", .bool showSeconds),
     ("am_pm_emphasis", Config.nameValue (if host.hour24.isTrue then .none else emphasis)),
     ("date_visibility", Config.nameValue dateVisibility),
     ("date_case", Config.nameValue dateCase),
     ("date_position", Config.nameValue datePosition),
     ("date_format_pattern",
       (value? values dateFormatKey).getD (.text Config.defaultDateFormat)),
     ("locale", host.locale),
     ("timezone", host.timezone),
     ("show_clock", .bool showClock),
     ("placement", Config.nameValue placement)]

end ClockFace.Tuning
