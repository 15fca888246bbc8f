import ClockFace.Failure
import ClockFace.Setting.Basic

/-! # Configurations

A configuration holds every setting of a display. `Config.ofFields` reads one from named values: it
refuses the settings whose values are not acceptable, all of them at once, ignores names that mean
nothing and fills in what is missing. `Config.toFields` names the values of a configuration, and
reading them back gives the configuration. -/

namespace ClockFace

/-- The settings of a display. -/
structure Config where
  hour24 : Bool := false
  showSeconds : Bool := false
  emphasis : Emphasis := .none
  dateVisibility : DateVisibility := .none
  dateCase : DateCase := .asIs
  datePosition : DatePosition := .left
  dateFormat : String := "EEE"
  locale : String := "en_US"
  timezone : Option String := none
  showClock : Bool := true
  placement : Placement := .right
  deriving DecidableEq, Repr, Inhabited

/-- What the time formats depend on. -/
structure PatternKey where
  locale : String
  hour24 : Bool
  showSeconds : Bool
  emphasis : Emphasis
  deriving DecidableEq, Repr, Inhabited

namespace Config

/-- The date pattern used when none is set. -/
def defaultDateFormat : String := "EEE"

/-- The date pattern in effect. -/
def datePattern (c : Config) : String :=
  if c.dateFormat.isEmpty then defaultDateFormat else c.dateFormat

/-- The host should show the clock: only the clock on the right is drawn. -/
def visible (c : Config) : Bool :=
  c.showClock && c.placement == .right

/-- What the time formats of the configuration depend on. -/
def patternKey (c : Config) : PatternKey :=
  ⟨c.locale, c.hour24, c.showSeconds, c.emphasis⟩

/-- The spellings of false. -/
def falseSpellings : List String :=
  ["0", "off", "f", "false", "n", "no"]

/-- The spellings of true. -/
def trueSpellings : List String :=
  ["1", "on", "t", "true", "y", "yes"]

/-- Whole numbers below this bound fit 64 bits. -/
def wordBound : Int := 9223372036854775808

/-- The truth value of a number: zero and one have one. -/
def readTruthNumber (x : Rat) : Except Flaw Bool :=
  if x = 0 then .ok false else if x = 1 then .ok true else .error .unreadableTruth

/-- The truth value that a value stands for. Texts are read in any case of the Latin letters; numbers
that are not whole or do not fit 64 bits have the wrong shape. -/
def readTruth : Value → Except Flaw Bool
  | .bool b => .ok b
  | .int n => if -wordBound ≤ n && n < wordBound then readTruthNumber n else .error .notTruth
  | .real d =>
    match d.toDouble? with
    | some x => if x.den = 1 && x.abs < wordBound then readTruthNumber x else .error .notTruth
    | none => .error .notTruth
  | .text s =>
    let folded := String.ofList (s.toList.map Char.toLower)
    if falseSpellings.contains folded then .ok false
    else if trueSpellings.contains folded then .ok true
    else .error .unreadableTruth
  | _ => .error .notTruth

/-- The choice that a value names. -/
def readChoice {α : Type} [Choice α] (v : Value) : Except Flaw α :=
  match v with
  | .text s =>
    match Choice.ofName? s with
    | some a => .ok a
    | none => .error (.notAmong (Choice.names α))
  | _ => .error (.notAmong (Choice.names α))

/-- The text that a value is. -/
def readText : Value → Except Flaw String
  | .text s => .ok s
  | _ => .error .notText

/-- The text that a value is, or nothing for null. -/
def readOptionalText : Value → Except Flaw (Option String)
  | .null => .ok none
  | v => (readText v).map some

/-- Named values, in order; of two values with one name the later counts. -/
abbrev Fields := List (String × Value)

/-- The value with a name. -/
def Fields.value? (fields : Fields) (name : String) : Option Value :=
  fields.reverse.lookup name

/-- The setting with a name as `read` takes it, or its default if there is none. -/
def setting {α : Type} (fields : Fields) (name : String) (read : Value → Except Flaw α)
    (default : α) : Except Flaw α :=
  match fields.value? name with
  | none => .ok default
  | some v => read v

/-- The problem with a setting, if there is one. -/
def problem? {α : Type} (name : String) : Except Flaw α → Option Problem
  | .ok _ => none
  | .error flaw => some ⟨name, flaw⟩

/-- The value of a setting that has no problem. -/
def valueOr {α : Type} (default : α) : Except Flaw α → α
  | .ok a => a
  | .error _ => default

/-- Read a configuration from named values. -/
def ofFields (fields : Fields) : Except Failure Config :=
  let base : Config := {}
  let hour24 := setting fields "hour24" readTruth base.hour24
  let showSeconds := setting fields "show_seconds" readTruth base.showSeconds
  let emphasis := setting fields "am_pm_emphasis" readChoice base.emphasis
  let dateVisibility := setting fields "date_visibility" readChoice base.dateVisibility
  let dateCase := setting fields "date_case" readChoice base.dateCase
  let datePosition := setting fields "date_position" readChoice base.datePosition
  let dateFormat := setting fields "date_format_pattern" readText base.dateFormat
  let locale := setting fields "locale" readText base.locale
  let timezone := setting fields "timezone" readOptionalText base.timezone
  let showClock := setting fields "show_clock" readTruth base.showClock
  let placement := setting fields "placement" readChoice base.placement
  -- Every setting is read before the first problem counts.
  let problems := [problem? "hour24" hour24, problem? "show_seconds" showSeconds,
    problem? "am_pm_emphasis" emphasis, problem? "date_visibility" dateVisibility,
    problem? "date_case" dateCase, problem? "date_position" datePosition,
    problem? "date_format_pattern" dateFormat, problem? "locale" locale,
    problem? "timezone" timezone, problem? "show_clock" showClock,
    problem? "placement" placement].filterMap id
  if problems.isEmpty then
    .ok
      { hour24 := valueOr base.hour24 hour24
        showSeconds := valueOr base.showSeconds showSeconds
        emphasis := valueOr base.emphasis emphasis
        dateVisibility := valueOr base.dateVisibility dateVisibility
        dateCase := valueOr base.dateCase dateCase
        datePosition := valueOr base.datePosition datePosition
        dateFormat := valueOr base.dateFormat dateFormat
        locale := valueOr base.locale locale
        timezone := valueOr base.timezone timezone
        showClock := valueOr base.showClock showClock
        placement := valueOr base.placement placement }
  else .error (.settings problems)

/-- The name of a choice as a value. -/
def nameValue {α : Type} [Choice α] (a : α) : Value :=
  .text (Choice.name a)

/-- The named values of a configuration, in the order of the settings. -/
def toFields (c : Config) : Fields :=
  [("hour24", .bool c.hour24),
   ("show_seconds", .bool c.showSeconds),
   ("am_pm_emphasis", nameValue c.emphasis),
   ("date_visibility", nameValue c.dateVisibility),
   ("date_case", nameValue c.dateCase),
   ("date_position", nameValue c.datePosition),
   ("date_format_pattern", .text c.dateFormat),
   ("locale", .text c.locale),
   ("timezone", (c.timezone.map Value.text).getD .null),
   ("show_clock", .bool c.showClock),
   ("placement", nameValue c.placement)]

/-- A configuration never changes: setting one of its fields is refused. -/
def assign (name : String) : Failure :=
  .settings [⟨name, .frozen⟩]

end Config

namespace PatternKey

/-- The name of an emphasis in log records. -/
def emphasisLabel : Emphasis → String
  | .none => "NONE"
  | .small => "SMALL"
  | .normal => "NORMAL"

/-- The key as log records show it. -/
def display (k : PatternKey) : String :=
  "(" ++ quotedString k.locale ++ ", " ++ (Value.bool k.hour24).quoted ++ ", " ++
    (Value.bool k.showSeconds).quoted ++ ", <AmPmEmphasis." ++ emphasisLabel k.emphasis ++ ": " ++
    quotedString (Choice.name k.emphasis) ++ ">)"

end PatternKey

end ClockFace
