import ClockFace.Time.Calendar

/-! # Time zones

A zone is what the data of the zone say: the offset from universal time that it begins with, the
changes of the offset that are on record, and the rule by which the clock is changed every year
after these. Times are whole seconds since the start of 1970, counted in universal time or on the
zone's wall clock.

* `Zone.offsetAt` is the offset in force at a universal time;
* `Zone.offsetAtWall` is the offset that a wall time is read with. A wall time that the clock skips
  is read with the offset before the change, and with the one after it when `fold` is set; one that
  the clock shows twice is read with the earlier offset, and with the later one when `fold` is
  set. -/

namespace ClockFace

/-- Seconds of a day. -/
def daySeconds : Int := 86400

/-- From the universal time on, the clock is so many seconds east of universal time. -/
structure Change where
  time : Int
  offset : Int
  deriving DecidableEq, Repr

/-- A change of offset at a universal time, with the offset that it ends. -/
structure Transition where
  time : Int
  before : Int
  after : Int

namespace Transition

/-- The wall time from which a time is read with the offset after the change. -/
def wallTime (t : Transition) (fold : Bool) : Int :=
  t.time + if fold then min t.before t.after else max t.before t.after

end Transition

/-- When the clock is changed in a year: on a weekday of a month, so many seconds after midnight.
Weekdays count from Monday, which is 0, and weeks from 1; the fifth week stands for the last one. -/
structure Changeover where
  month : Nat
  week : Nat
  weekday : Int
  seconds : Int
  deriving DecidableEq, Repr

namespace Changeover

/-- The day number of the change in a year. -/
def day (c : Changeover) (year : Int) : Int :=
  let first := Date.toDay ⟨year, c.month, 1⟩
  let later := (c.weekday - Date.weekdayOf first) % 7 + 7 * ((c.week : Int) - 1)
  first + if later < Date.daysInMonth year c.month then later else later - 7

/-- The universal time of the change in a year, which is told on the wall clock as it stands
before. -/
def time (c : Changeover) (year before : Int) : Int :=
  c.day year * daySeconds + c.seconds - before

end Changeover

/-- Summer time year by year, from the year `since` on: the offset `summer` is in force from `start`
to `stop`, and `standard` in the rest of the year. -/
structure SummerRule where
  since : Int
  standard : Int
  summer : Int
  start : Changeover
  stop : Changeover
  deriving DecidableEq, Repr

namespace SummerRule

/-- The two changes of a year, in order of time. -/
def changesIn (r : SummerRule) (year : Int) : List Change :=
  let start : Change := ⟨r.start.time year r.standard, r.summer⟩
  let stop : Change := ⟨r.stop.time year r.summer, r.standard⟩
  -- South of the equator the year begins in summer.
  if start.time ≤ stop.time then [start, stop] else [stop, start]

/-- The changes up to the end of a year. -/
def changes (r : SummerRule) (year : Int) : List Change :=
  (List.range (year + 1 - r.since).toNat).flatMap fun n : Nat =>
    r.changesIn (r.since + n)

end SummerRule

/-- A zone: its name, its first offset, the changes on record in order of time, and the rule that
holds after them. The rule only abbreviates: within the calendar any zone can be given by its
changes alone. -/
structure Zone where
  name : String
  first : Int
  recorded : List Change
  rule : Option SummerRule
  deriving DecidableEq, Repr

/-- The zones that are known by a name. -/
abbrev ZoneTable := String → Option Zone

namespace Change

/-- The offset after the changes that have happened; the first one that has not ends the search. -/
def offsetAfter (happened : Transition → Bool) (before : Int) : List Change → Int
  | [] => before
  | c :: rest =>
    if happened ⟨c.time, before, c.offset⟩ then offsetAfter happened c.offset rest else before

/-- The offset in force at a universal time, after changes from an offset `before`. -/
def offsetAt (time before : Int) (changes : List Change) : Int :=
  offsetAfter (fun t => t.time ≤ time) before changes

/-- The offset that a wall time is read with, after changes from an offset `before`. -/
def offsetAtWall (wall : Int) (fold : Bool) (before : Int) (changes : List Change) : Int :=
  offsetAfter (fun t => t.wallTime fold ≤ wall) before changes

end Change

namespace Zone

/-- The changes up to the end of a year, in order of time. -/
def changes (z : Zone) (year : Int) : List Change :=
  z.recorded ++ match z.rule with
    | none => []
    | some r => r.changes year

/-- The year that a time falls in. -/
def yearOf (time : Int) : Int :=
  (Date.ofDay (time / daySeconds)).year

/-- The offset in force at a universal time. -/
def offsetAt (z : Zone) (time : Int) : Int :=
  Change.offsetAt time z.first (z.changes (yearOf time))

/-- The offset that a wall time is read with. -/
def offsetAtWall (z : Zone) (wall : Int) (fold : Bool) : Int :=
  Change.offsetAtWall wall fold z.first (z.changes (yearOf wall))

/-- A zone that never changes its offset, given in minutes. -/
def steady (name : String) (minutes : Int) : Zone :=
  ⟨name, minutes * 60, [], none⟩

end Zone

end ClockFace
