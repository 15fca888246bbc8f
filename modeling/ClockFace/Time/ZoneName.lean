import ClockFace.Failure
import ClockFace.Text.Split
import ClockFace.Time.Zone

/-! # Zone names

A zone name is a relative path below the directory of zones. It is refused if it is absolute, if
reducing the path (`reduced`) makes it shorter, or if the reduced path leaves the directory. -/

namespace ClockFace.ZoneName

/-- The part that stands for the directory itself. -/
def here : List Char := ['.']

/-- The part that stands for the directory above. -/
def above : List Char := ['.', '.']

/-- Take one more part into a reduced path, whose parts are kept last first. -/
def takePart (path : List (List Char)) (part : List Char) : List (List Char) :=
  if part = [] || part = here then path
  else if part ≠ above then part :: path
  else match path with
    | [] => [above]
    | last :: rest => if last = above then above :: last :: rest else rest

/-- The parts of the reduced relative path. -/
def reducedParts (name : List Char) : List (List Char) :=
  ((Text.split '/' name).foldl takePart []).reverse

/-- The relative path without redundant parts; the directory itself is a single point. -/
def reduced (name : List Char) : List Char :=
  match reducedParts name with
  | [] => here
  | ps => List.intercalate ['/'] ps

/-- The path stays below the directory. -/
def isInside (name : List Char) : Bool :=
  match reducedParts name with
  | [] => false
  | part :: _ => part != above

/-- The zone with the given name in a table of zones. -/
def find (zones : ZoneTable) (name : String) : Except Failure Zone :=
  let path := name.toList
  if path.head? = some '/' then .error (.absoluteZone name)
  else if (reduced path).length ≠ path.length then .error (.redundantZone name)
  else if !isInside path then .error (.outsideZone name)
  else if path.contains '\x00' then .error .zeroInZone
  else match zones name with
    | some zone => .ok zone
    | none => .error (.unknownZone name)

/-- The zone that a setting names; no name and the empty name stand for the local zone. -/
def resolve (zones : ZoneTable) (name : Option String) : Except Failure (Option Zone) :=
  match name with
  | none => .ok none
  | some n => if n.isEmpty then .ok none else (find zones n).map some

end ClockFace.ZoneName
