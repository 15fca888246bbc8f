import ClockFace.Environment.Expand
import ClockFace.Setting.Tuning
import ClockFace.Text.Case

/-! # Configuration from the environment

The variables of a display have a common start, followed by a tuning key in upper case or by one of
three further names. They are looked up in the environment first and then in the environment file. -/

namespace ClockFace.Environment

/-- Named texts; of two texts with one name the later counts. -/
abbrev Variables := List (String × String)

/-- The text with a name. -/
def Variables.find? (vs : Variables) (name : String) : Option String :=
  vs.reverse.lookup name

/-- The start of the names of all variables of a display. -/
def nameStart : String := "STATUSCLOCK_"

/-- The name of the variable for a tuning key. -/
def variableName (key : String) : String :=
  nameStart ++ String.ofList (Text.upper key.toList)

/-- The variables that a file sets. One that is last named without a value is not set. -/
def ofFile (process : Variables) (file : String) : String → Option String :=
  let look : List Char → Option (List Char) := fun name =>
    (process.find? (String.ofList name)).map String.toList
  let bindings := Binding.expandAll look (Binding.ofFile file.toList)
  fun name =>
    ((bindings.reverse.find? (·.name == name.toList)).bind (·.value)).map String.ofList

/-- The texts that ask for a 24-hour clock. -/
def hour24Spellings : List String :=
  ["1", "true", "yes"]

/-- The text asks for a 24-hour clock. -/
def asksHour24 (text : String) : Bool :=
  hour24Spellings.contains (String.ofList (Text.lower (Text.trim text.toList)))

/-- The text, unless it is empty. -/
def nonEmpty? (text : Option String) : Option String :=
  text.filter (!·.isEmpty)

/-- The configuration that variables describe. -/
def config (find : String → Option String) : Except Failure Config :=
  let values := Tuning.keys.map fun key =>
    (key, ((find (variableName key)).map Value.text).getD .null)
  Tuning.config values
    { hour24 := .bool (asksHour24 ((find (nameStart ++ "HOUR24")).getD "0"))
      locale := .text ((nonEmpty? (find (nameStart ++ "LOCALE"))).getD "en_US")
      timezone := ((nonEmpty? (find (nameStart ++ "TIMEZONE"))).map Value.text).getD .null }

/-- The configuration that an environment and an environment file describe. The process environment
stands in for an environment that is not given; references in the file always see it. -/
def load (file : Option String) (given : Option Variables) (process : Variables) :
    Except Failure Config :=
  let inFile : String → Option String :=
    match file with
    | none => fun _ => none
    | some text => ofFile process text
  let environment := given.getD process
  -- The environment wins over the file.
  config fun name => environment.find? name <|> inFile name

end ClockFace.Environment
