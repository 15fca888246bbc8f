import ClockFace.Value
import ClockFace.Number.Numeral

/-! # Failures

Everything that can go wrong, one constructor per cause. `Failure.message` holds the whole wording
and `Failure.kind` sorts the causes into the few kinds that a caller tells apart. -/

namespace ClockFace

/-- What is wrong with the value of one setting. -/
inductive Flaw where
  /-- The value is a text or a number, but not one that stands for a truth value. -/
  | unreadableTruth
  /-- The value has a shape that no truth value has. -/
  | notTruth
  /-- The value is none of the listed names. -/
  | notAmong (names : List String)
  /-- The value is not a text. -/
  | notText
  /-- The setting cannot be changed once it is made. -/
  | frozen
  deriving DecidableEq, Repr

/-- Names between single quotes, with commas and a last "or". -/
def alternatives : List String → String
  | [] => ""
  | [a] => "'" ++ a ++ "'"
  | [a, b] => "'" ++ a ++ "' or '" ++ b ++ "'"
  | a :: rest => "'" ++ a ++ "', " ++ alternatives rest

/-- The short code of a flaw. -/
def Flaw.code : Flaw → String
  | .unreadableTruth => "bool_parsing"
  | .notTruth => "bool_type"
  | .notAmong _ => "enum"
  | .notText => "string_type"
  | .frozen => "frozen_instance"

/-- The wording of a flaw. -/
def Flaw.message : Flaw → String
  | .unreadableTruth => "Input should be a valid boolean, unable to interpret input"
  | .notTruth => "Input should be a valid boolean"
  | .notAmong names => "Input should be " ++ alternatives names
  | .notText => "Input should be a valid string"
  | .frozen => "Instance is frozen"

/-- A setting whose value was refused. -/
structure Problem where
  field : String
  flaw : Flaw
  deriving DecidableEq, Repr

/-- The kinds of failure that a caller tells apart. -/
inductive FailureKind where
  /-- A value of the right shape that is not acceptable. -/
  | value
  /-- A value of the wrong shape. -/
  | shape
  /-- A value without an operation that was asked of it. -/
  | operation
  /-- A name that is not listed. -/
  | lookup
  /-- A number that is too large for the computation. -/
  | overflow
  /-- A limit of the machine's calendar. -/
  | system
  /-- A well-formed locale tag without data. -/
  | unknownLocale
  /-- A well-formed zone name without data. -/
  | unknownZone
  /-- One or more settings that were refused. -/
  | settings
  deriving DecidableEq, Repr

/-- The causes of failure. -/
inductive Failure where
  /-- A span begins before the text or ends before it begins. -/
  | spanOffsets (start stop : Int)
  /-- A span has a kind that does not exist. -/
  | spanKind (given : Value)
  /-- An emphasis that does not exist. -/
  | emphasis (given : Value)
  /-- A table of time patterns lacks the locale. -/
  | noPatterns (tag : String)
  /-- A locale tag without characters. -/
  | emptyTag
  /-- The language part of a locale tag is not made of letters. -/
  | languageLetters (language : String)
  /-- A locale tag with parts that mean nothing. -/
  | malformedTag (tag : String)
  /-- A locale tag whose locale has no data. -/
  | unknownLocale (id : String)
  /-- A pattern field of a length that it cannot have. -/
  | fieldLength (letter : Char) (length : Nat)
  /-- A pattern field that cannot be written. -/
  | unwritableField (letter : Char)
  /-- A day period that the locale has no name for. -/
  | unnamedPeriod (period locale : String)
  /-- A year that the calendar does not have. -/
  | yearRange (year : Int)
  /-- A time that leaves the calendar's years. -/
  | dateRange
  /-- Seconds that are too many for the machine's clock. -/
  | epochRange
  /-- A year that is too large for the machine's calendar. -/
  | machineYear
  /-- A quotient too large for double precision. -/
  | quotientRange
  /-- A whole number too large for double precision. -/
  | doubleRange
  /-- A number beyond double precision that should be whole. -/
  | infinite
  /-- A real that is not a number and should be whole. -/
  | notNumber
  /-- A time in seconds that are not a number. -/
  | timeNotNumber
  /-- A text that is not a whole number. -/
  | numeral (given : String)
  /-- A numeral with too many digits. -/
  | numeralLength (digits : Nat)
  /-- A value that no whole number can be made of. -/
  | notNumeric (given : Value)
  /-- A tuning value that selects none of the options. -/
  | tuningRange (given : Value) (key : String)
  /-- A demo time that is not made of digits. -/
  | demoTime (given : String)
  /-- A value that has no length. -/
  | noLength (given : Value)
  /-- A value that cannot be asked for digits. -/
  | noDigits (given : Value)
  /-- A zone name that is an absolute path. -/
  | absoluteZone (name : String)
  /-- A zone name with redundant path parts. -/
  | redundantZone (name : String)
  /-- A zone name that leaves the zone directory. -/
  | outsideZone (name : String)
  /-- A zone name with a zero character. -/
  | zeroInZone
  /-- A zone name without data. -/
  | unknownZone (name : String)
  /-- Settings that were refused, in the order of the settings. -/
  | settings (problems : List Problem)
  /-- A case that does not exist. -/
  | dateCase (given : Value)
  /-- A value that nothing can be looked up by. -/
  | noLookup (given : Value)
  /-- A date position that does not exist. -/
  | datePosition (given : Value)
  /-- A date visibility that does not exist. -/
  | dateVisibility (given : Value)
  /-- An emphasis that cannot be shown. -/
  | shownEmphasis (given : Value)
  /-- A log level without data. -/
  | unknownLevel (name : String)
  /-- A log level below zero. -/
  | negativeLevel (severity : Int)
  /-- A log level that is neither a name nor a whole number. -/
  | levelShape (given : Value)
  deriving BEq, Repr

namespace Failure

/-- The kind of a failure. -/
def kind : Failure → FailureKind
  | .noPatterns _ | .unwritableField _ | .dateCase _ => .lookup
  | .unknownLocale _ => .unknownLocale
  | .unknownZone _ => .unknownZone
  | .dateRange | .epochRange | .quotientRange | .doubleRange | .infinite => .overflow
  | .machineYear => .system
  | .notNumeric _ | .noLength _ | .noLookup _ | .levelShape _ => .shape
  | .noDigits _ => .operation
  | .settings _ => .settings
  | _ => .value

/-- The reason why the limit on numerals exists is not given, only the limit and the way around it. -/
def numeralLengthMessage (digits : Nat) : String :=
  "Exceeds the limit (" ++ toString Number.digitLimit ++
    " digits) for integer string conversion: value has " ++ toString digits ++
    " digits; use sys.set_int_max_str_digits() to increase the limit"

/-- The wording for an empty locale tag. -/
def emptyTagMessage : String :=
  "Empty locale identifier value: ''\n\nIf you didn't explicitly pass an empty value to a Babel " ++
    "function, this could be caused by there being no suitable locale environment variables for " ++
    "the API you tried to use."

/-- The most characters of a quoted numeral that a message shows. -/
def numeralShown : Nat := 200

/-- The wording of a failure. -/
def message : Failure → String
  | .spanOffsets start stop =>
    "Invalid span offsets: [" ++ toString start ++ ", " ++ toString stop ++ ")"
  | .spanKind given => given.quoted ++ " is not a valid SpanKind"
  | .emphasis given => given.quoted ++ " is not a valid AmPmEmphasis"
  | .noPatterns tag => "No time patterns configured for locale '" ++ tag ++ "'"
  | .emptyTag => emptyTagMessage
  | .languageLetters language => "expected only letters, got " ++ quotedString language
  | .malformedTag tag => quotedString tag ++ " is not a valid locale identifier"
  | .unknownLocale id => "unknown locale " ++ quotedString id
  | .fieldLength letter length =>
    "Invalid length for field: " ++ quotedString (String.ofList (List.replicate length letter))
  | .unwritableField letter => "Unsupported date/time field " ++ quotedString letter.toString
  | .unnamedPeriod period locale => "Could not format period " ++ period ++ " in " ++ locale
  | .yearRange year => "year " ++ toString year ++ " is out of range"
  | .dateRange => "date value out of range"
  | .epochRange => "timestamp out of range for platform time_t"
  | .machineYear => "[Errno 75] Value too large for defined data type"
  | .quotientRange => "integer division result too large for a float"
  | .doubleRange => "int too large to convert to float"
  | .infinite => "cannot convert float infinity to integer"
  | .notNumber => "cannot convert float NaN to integer"
  | .timeNotNumber => "Invalid value NaN (not a number)"
  | .numeral given =>
    "invalid literal for int() with base 10: " ++
      String.ofList ((Text.quoted given.toList).take numeralShown)
  | .numeralLength digits => numeralLengthMessage digits
  | .notNumeric given =>
    "int() argument must be a string, a bytes-like object or a real number, not '" ++
      given.shapeName ++ "'"
  | .tuningRange given key =>
    "Tuning value " ++ given.quoted ++ " out of range for '" ++ key ++ "'"
  | .demoTime given => "Invalid hhmm value: " ++ quotedString given
  | .noLength given => "object of type '" ++ given.shapeName ++ "' has no len()"
  | .noDigits given => "'" ++ given.shapeName ++ "' object has no attribute 'isdigit'"
  | .absoluteZone name => "ZoneInfo keys may not be absolute paths, got: " ++ name
  | .redundantZone name => "ZoneInfo keys must be normalized relative paths, got: " ++ name
  | .outsideZone name => "ZoneInfo keys must refer to subdirectories of TZPATH, got: " ++ name
  | .zeroInZone => "embedded null byte"
  | .unknownZone name => "No time zone found with key " ++ name
  | .settings problems =>
    "\n".intercalate (problems.map fun p => p.field ++ ": " ++ p.flaw.message)
  | .dateCase given => given.display
  | .noLookup given => "unhashable type: '" ++ given.shapeName ++ "'"
  | .datePosition given => "Unsupported date position: " ++ given.display
  | .dateVisibility given => "Unsupported date visibility: " ++ given.display
  | .shownEmphasis given => "Unsupported AM/PM emphasis: " ++ given.display
  | .unknownLevel name => "Level '" ++ name ++ "' does not exist"
  | .negativeLevel severity =>
    "Invalid level value, it should be a positive integer, not: " ++ toString severity
  | .levelShape given =>
    "Invalid level, it should be an integer or a string, not: '" ++ given.shapeName ++ "'"

end Failure

end ClockFace
