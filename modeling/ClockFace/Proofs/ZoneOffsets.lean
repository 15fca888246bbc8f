import ClockFace.Proofs.CalendarYears
import ClockFace.Time.ZoneTable

/-! # Offsets of wall times

What a program can rely on in a zone is how the offset that a wall time is read with
(`Zone.offsetAtWall`) belongs to the offset in force (`Zone.offsetAt`). A wall time that the clock
shows is read as a moment at which it does so, and both readings together are all such moments
(`Zone.IsReadable`). Only a wall time that the clock skips (`Zone.Skips`) is read with an offset
that is not in force at the moment it then has.

A zone is readable if its changes of offset lie far enough apart: no wall time has to do with two of
them (`Change.isSpaced`). This can be checked on the changes on record and for the first year of the
summer rule, as the rule keeps its changes well inside the year and well apart
(`Zone.isRegular`).

## Key results

- `Change.offsetAt_sub_offsetAtWall`, `Change.exists_offsetAtWall_eq`: readings over changes that
  are spaced
- `SummerRule.isSpaced_changesIn`: the changes of a rule are spaced
- `Zone.isReadable_of_isRegular`: a zone with spaced changes is readable
- `Zone.isReadable_table`: so are the zones that have data
-/

namespace ClockFace

/-! ## Readable zones -/

namespace Zone

/-- The clock shows the wall time at the moment. -/
def Shows (z : Zone) (wall time : Int) : Prop :=
  time + z.offsetAt time = wall

instance (z : Zone) (wall time : Int) : Decidable (z.Shows wall time) :=
  inferInstanceAs (Decidable (_ = _))

/-- The clock shows the wall time at no moment. -/
def Skips (z : Zone) (wall : Int) : Prop :=
  ∀ time, ¬ z.Shows wall time

/-- How wall times are read. The offset that a wall time is read with, either way, is in force at
the moment that it then has, if the clock shows the wall time at all. Every moment is one of the two
readings of the wall time that the clock then shows. -/
structure IsReadable (z : Zone) : Prop where
  offsetAt_sub {wall time : Int} (fold : Bool) (h : z.Shows wall time) :
    z.offsetAt (wall - z.offsetAtWall wall fold) = z.offsetAtWall wall fold
  exists_fold {wall time : Int} (h : z.Shows wall time) :
    ∃ fold, z.offsetAtWall wall fold = z.offsetAt time

/-- The offset of a wall time is the one in force at its moment, unless the clock skips it. -/
theorem IsReadable.offsetAt_sub_eq_iff {z : Zone} (hz : z.IsReadable) (wall : Int) (fold : Bool) :
    z.offsetAt (wall - z.offsetAtWall wall fold) = z.offsetAtWall wall fold ↔
      ¬ z.Skips wall := by
  constructor
  · intro heq hskips
    apply hskips (wall - z.offsetAtWall wall fold)
    rw [Shows, heq, Int.sub_add_cancel]
  · intro hshown
    obtain ⟨time, htime⟩ := Classical.not_forall_not.1 hshown
    exact hz.offsetAt_sub fold htime

end Zone

/-- Every zone of the table is readable. -/
def ZoneTable.IsReadable (zones : ZoneTable) : Prop :=
  ∀ name z, zones name = some z → z.IsReadable

/-! ## Spaced changes -/

namespace Change

theorem offsetAt_cons (time before : Int) (c : Change) (rest : List Change) :
    offsetAt time before (c :: rest) =
      if c.time ≤ time then offsetAt time c.offset rest else before := by
  simp only [offsetAt, offsetAfter, decide_eq_true_eq]

theorem offsetAtWall_cons (wall : Int) (fold : Bool) (before : Int) (c : Change)
    (rest : List Change) :
    offsetAtWall wall fold before (c :: rest) =
      if c.time + (if fold then min before c.offset else max before c.offset) ≤ wall then
        offsetAtWall wall fold c.offset rest
      else before := by
  simp only [offsetAtWall, offsetAfter, Transition.wallTime, decide_eq_true_eq]

/-- The changes, after an offset `before`, are spaced: what the wall clock shows around each of them
is over when it comes to the next one, and has not come at the wall time `edge`. -/
def isSpaced (edge before : Int) : List Change → Bool
  | [] => true
  | c :: rest =>
    edge ≤ c.time + min before c.offset && isSpaced (c.time + max before c.offset) c.offset rest

theorem isSpaced_cons {edge before : Int} {c : Change} {rest : List Change} :
    isSpaced edge before (c :: rest) = true ↔
      edge ≤ c.time + min before c.offset ∧
        isSpaced (c.time + max before c.offset) c.offset rest = true := by
  rw [isSpaced, Bool.and_eq_true, decide_eq_true_eq]

/-- Where the changes leave the clock: the wall time when the last one is over, and the offset. -/
def reach (edge before : Int) : List Change → Int × Int
  | [] => (edge, before)
  | c :: rest => reach (c.time + max before c.offset) c.offset rest

theorem isSpaced_append (edge before : Int) (a b : List Change) :
    isSpaced edge before (a ++ b) =
      (isSpaced edge before a && isSpaced (reach edge before a).1 (reach edge before a).2 b) := by
  induction a generalizing edge before with
  | nil => rfl
  | cons c rest ih => rw [List.cons_append, isSpaced, ih, isSpaced, reach, Bool.and_assoc]

section Readings

variable {edge before : Int} {changes : List Change}

theorem isSpaced_of_le {lower : Int} (hle : lower ≤ edge)
    (h : isSpaced edge before changes = true) : isSpaced lower before changes = true := by
  cases changes with
  | nil => rfl
  | cons c rest =>
    rw [isSpaced_cons] at h ⊢
    exact ⟨hle.trans h.1, h.2⟩

/-- From a wall time before the first change on, the clock only shows later ones. -/
theorem le_add_offsetAt (time : Int) (h : isSpaced edge before changes = true)
    (htime : edge ≤ time + before) : edge ≤ time + offsetAt time before changes := by
  -- The edge moves on with each change
  induction changes generalizing edge before with
  | nil => exact htime
  | cons c rest ih =>
    obtain ⟨hedge, hrest⟩ := isSpaced_cons.1 h
    rw [offsetAt_cons]
    split
    · exact ih (isSpaced_of_le (by omega) hrest) (by omega)
    · exact htime

/-- Before the first change its old offset is in force. -/
theorem offsetAt_of_lt {time : Int} (h : isSpaced edge before changes = true)
    (htime : time + before < edge) : offsetAt time before changes = before := by
  cases changes with
  | nil => rfl
  | cons c rest =>
    obtain ⟨hedge, -⟩ := isSpaced_cons.1 h
    rw [offsetAt_cons, if_neg (by omega)]

theorem offsetAtWall_of_lt {wall : Int} (fold : Bool) (h : isSpaced edge before changes = true)
    (hwall : wall < edge) : offsetAtWall wall fold before changes = before := by
  cases changes with
  | nil => rfl
  | cons c rest =>
    obtain ⟨hedge, -⟩ := isSpaced_cons.1 h
    rw [offsetAtWall_cons, if_neg]
    split <;> omega

/-- A change to a later offset makes the clock skip the wall times between the two offsets. -/
theorem add_offsetAt_ne {c : Change} {wall time : Int}
    (h : isSpaced (c.time + max before c.offset) c.offset changes = true)
    (hbefore : c.time + before ≤ wall) (hafter : wall < c.time + c.offset) :
    time + offsetAt time before (c :: changes) ≠ wall := by
  rw [offsetAt_cons]
  split
  · have hlower : c.time + c.offset ≤ c.time + max before c.offset := by omega
    have hle := le_add_offsetAt time (isSpaced_of_le hlower h) (by omega)
    omega
  · omega

/-- Over spaced changes the offset that a wall time is read with is in force at the moment that it
then has, if the clock shows the wall time. -/
theorem offsetAt_sub_offsetAtWall {wall time : Int} (fold : Bool)
    (h : isSpaced edge before changes = true)
    (hshown : time + offsetAt time before changes = wall) :
    offsetAt (wall - offsetAtWall wall fold before changes) before changes =
      offsetAtWall wall fold before changes := by
  induction changes generalizing edge before with
  | nil => rfl
  | cons c rest ih =>
    obtain ⟨-, hrest⟩ := isSpaced_cons.1 h
    have hgap (hbefore : c.time + before ≤ wall) : ¬ wall < c.time + c.offset :=
      fun hafter => add_offsetAt_ne hrest hbefore hafter hshown
    rw [offsetAtWall_cons]
    by_cases hhappened :
        c.time + (if fold then min before c.offset else max before c.offset) ≤ wall
    · rw [if_pos hhappened, offsetAt_cons]
      by_cases hover : c.time + max before c.offset ≤ wall
      · -- All of the change is over, also at the moment that shows the wall time
        rw [offsetAt_cons, if_pos (by split at hshown <;> omega)] at hshown
        have hread := ih hrest hshown
        rw [if_pos ?_, hread]
        by_contra hearly
        rw [offsetAt_of_lt hrest (by omega)] at hread
        omega
      · -- The first reading comes after the change as a whole, so this is the second one
        rw [offsetAtWall_of_lt fold hrest (by omega), if_pos (by split at hhappened <;> omega)]
        exact offsetAt_of_lt hrest (by omega)
    · rw [if_neg hhappened, offsetAt_cons, if_neg]
      split at hhappened <;> omega

/-- Over spaced changes every moment is one of the two readings of the wall time that the clock then
shows. -/
theorem exists_offsetAtWall_eq (time : Int) (h : isSpaced edge before changes = true) :
    ∃ fold, offsetAtWall (time + offsetAt time before changes) fold before changes =
      offsetAt time before changes := by
  induction changes generalizing edge before with
  | nil => exact ⟨false, rfl⟩
  | cons c rest ih =>
    obtain ⟨-, hrest⟩ := isSpaced_cons.1 h
    rw [offsetAt_cons]
    split
    · next hhappened =>
      obtain ⟨fold, hfold⟩ := ih hrest
      have hlower : c.time + min before c.offset ≤ c.time + max before c.offset := by omega
      have hlow := le_add_offsetAt time (isSpaced_of_le hlower hrest) (by omega)
      by_cases hover : c.time + max before c.offset ≤ time + offsetAt time c.offset rest
      · refine ⟨fold, ?_⟩
        rw [offsetAtWall_cons, if_pos (by split <;> omega), hfold]
      · -- The clock shows this wall time around the change, so the second reading is meant
        rw [offsetAtWall_of_lt fold hrest (by omega)] at hfold
        refine ⟨true, ?_⟩
        rw [offsetAtWall_cons, if_pos (by simpa using hlow),
          offsetAtWall_of_lt true hrest (by omega)]
        exact hfold
    · next hahead =>
      refine ⟨false, ?_⟩
      rw [offsetAtWall_cons, if_neg]
      simp only [Bool.false_eq_true, if_false]
      omega

end Readings

/-! ## More changes -/

theorem offsetAfter_append (happened : Transition → Bool) (edge : Int) {before : Int}
    {a b : List Change}
    (h : offsetAfter happened (reach edge before a).2 b = (reach edge before a).2) :
    offsetAfter happened before (a ++ b) = offsetAfter happened before a := by
  induction a generalizing edge before with
  | nil => exact h
  | cons c rest ih =>
    rw [List.cons_append, offsetAfter, offsetAfter, ih _ h]

/-- An offset of less than a day. -/
def isOffset (seconds : Int) : Bool :=
  -daySeconds < seconds && seconds < daySeconds

theorem isOffset_iff {seconds : Int} :
    isOffset seconds = true ↔ -86400 < seconds ∧ seconds < 86400 := by
  rw [isOffset, Bool.and_eq_true, decide_eq_true_eq, decide_eq_true_eq]
  rfl

theorem isOffset_reach {edge before : Int} {changes : List Change}
    (hbefore : isOffset before = true) (hchanges : ∀ c ∈ changes, isOffset c.offset = true) :
    isOffset (reach edge before changes).2 = true := by
  induction changes generalizing edge before with
  | nil => exact hbefore
  | cons c rest ih =>
    obtain ⟨hc, hrest⟩ := List.forall_mem_cons.1 hchanges
    exact ih hc hrest

end Change

/-! ## Summer time -/

/-- The change is in a week of a month from March to November, within the day. -/
def Changeover.isRegular (c : Changeover) : Bool :=
  3 ≤ c.month && c.month ≤ 11 && 1 ≤ c.week && c.week ≤ 5 && 0 ≤ c.seconds &&
    c.seconds ≤ daySeconds

/-- The day of a change lies in its month. -/
theorem Changeover.day_bounds {c : Changeover} (hmonth : 3 ≤ c.month ∧ c.month ≤ 11)
    (hweek : 1 ≤ c.week ∧ c.week ≤ 5) (year : Int) :
    Date.marchDay year + (153 * ((c.month : Int) - 3) + 2) / 5 ≤ c.day year ∧
      c.day year < Date.marchDay year + (153 * ((c.month : Int) - 2) + 2) / 5 := by
  have hstart := Date.toDay_month year (show 3 ≤ c.month ∧ c.month ≤ 12 by omega)
  have hend := Date.toDay_month year (show 3 ≤ c.month + 1 ∧ c.month + 1 ≤ 12 by omega)
  have hweekday := Int.emod_nonneg (c.weekday - Date.weekdayOf (Date.toDay ⟨year, c.month, 1⟩))
    (show (7 : Int) ≠ 0 by decide)
  have hweekday' := Int.emod_lt_of_pos (c.weekday - Date.weekdayOf (Date.toDay ⟨year, c.month, 1⟩))
    (show (0 : Int) < 7 by decide)
  simp only [day, Date.daysInMonth, if_neg (show c.month ≠ 12 by omega)]
  -- Which days of the month fall on the weekday does not matter
  generalize (c.weekday - Date.weekdayOf (Date.toDay ⟨year, c.month, 1⟩)) % 7 = later at *
  rw [hstart, hend]
  split <;> omega

/-- A change lies in its month, give or take a day. -/
theorem Changeover.time_bounds {c : Changeover} (hc : c.isRegular = true) (year : Int)
    {before : Int} (hbefore : Change.isOffset before = true) :
    (Date.marchDay year + (153 * ((c.month : Int) - 3) + 2) / 5 - 1) * daySeconds ≤
        c.time year before ∧
      c.time year before ≤
        (Date.marchDay year + (153 * ((c.month : Int) - 2) + 2) / 5 + 1) * daySeconds := by
  simp only [isRegular, Bool.and_eq_true, decide_eq_true_eq] at hc
  obtain ⟨⟨⟨⟨⟨hfirst, hlast⟩, hweek⟩, hweek'⟩, hnonneg⟩, hseconds⟩ := hc
  have hday := c.day_bounds ⟨hfirst, hlast⟩ ⟨hweek, hweek'⟩ year
  rw [Change.isOffset_iff] at hbefore
  simp only [time, daySeconds] at *
  omega

/-- Changes in months that do not follow each other lie well inside the year and well apart. -/
theorem Changeover.times_apart {c d : Changeover} (hc : c.isRegular = true)
    (hd : d.isRegular = true) (hmonths : c.month + 2 ≤ d.month) (year : Int) {b b' : Int}
    (hb : Change.isOffset b = true) (hb' : Change.isOffset b' = true) :
    (Date.newYear year + 7) * daySeconds ≤ c.time year b ∧
      c.time year b + 7 * daySeconds ≤ d.time year b' ∧
      d.time year b' ≤ (Date.newYear (year + 1) - 7) * daySeconds := by
  have hctime := c.time_bounds hc year hb
  have hdtime := d.time_bounds hd year hb'
  have hmarch := Date.marchDay_succ (year - 1)
  simp only [isRegular, Bool.and_eq_true, decide_eq_true_eq] at hc hd
  rw [Int.sub_add_cancel] at hmarch
  rw [Date.newYear_eq_marchDay, Date.newYear_eq_marchDay, Int.add_sub_cancel]
  simp only [daySeconds] at *
  omega

namespace SummerRule

open Change

/-- The clock is put forward and back again in months that do not follow each other. -/
def isRegular (r : SummerRule) : Bool :=
  isOffset r.standard && isOffset r.summer && r.start.isRegular && r.stop.isRegular &&
    (r.start.month + 2 ≤ r.stop.month || r.stop.month + 2 ≤ r.start.month)

variable {r : SummerRule}

/-- Every year has two changes of offset, well inside it and well apart. -/
theorem exists_changesIn (hr : r.isRegular = true) (year : Int) :
    ∃ c d : Change, r.changesIn year = [c, d] ∧ isOffset c.offset = true ∧
      isOffset d.offset = true ∧ (Date.newYear year + 7) * daySeconds ≤ c.time ∧
      c.time + 7 * daySeconds ≤ d.time ∧ d.time ≤ (Date.newYear (year + 1) - 7) * daySeconds := by
  simp only [isRegular, Bool.and_eq_true, Bool.or_eq_true, decide_eq_true_eq] at hr
  obtain ⟨⟨⟨⟨hstandard, hsummer⟩, hstart⟩, hstop⟩, hmonths⟩ := hr
  obtain hmonths | hmonths := hmonths
  · -- North of the equator the year begins with the standard offset
    have htimes := Changeover.times_apart hstart hstop hmonths year hstandard hsummer
    refine ⟨⟨r.start.time year r.standard, r.summer⟩, ⟨r.stop.time year r.summer, r.standard⟩, ?_,
      hsummer, hstandard, htimes⟩
    have horder : r.start.time year r.standard ≤ r.stop.time year r.summer := by
      simp only [daySeconds] at htimes
      omega
    exact if_pos horder
  · -- South of it, with the summer offset
    have htimes := Changeover.times_apart hstop hstart hmonths year hsummer hstandard
    refine ⟨⟨r.stop.time year r.summer, r.standard⟩, ⟨r.start.time year r.standard, r.summer⟩, ?_,
      hstandard, hsummer, htimes⟩
    have horder : ¬ r.start.time year r.standard ≤ r.stop.time year r.summer := by
      simp only [daySeconds] at htimes
      omega
    exact if_neg horder

/-- The changes of so many years, from a year on. -/
def changesFrom (r : SummerRule) (year : Int) (years : Nat) : List Change :=
  (List.range years).flatMap fun n : Nat => r.changesIn (year + n)

theorem changesFrom_succ (r : SummerRule) (year : Int) (years : Nat) :
    r.changesFrom year (years + 1) = r.changesIn year ++ r.changesFrom (year + 1) years := by
  have hyears (n : Nat) : year + ((n + 1 : Nat) : Int) = year + 1 + n := by omega
  simp only [changesFrom, List.range_succ_eq_map, List.flatMap_cons, List.flatMap_map, hyears]
  simp

theorem changesFrom_add (r : SummerRule) (year : Int) (a b : Nat) :
    r.changesFrom year (a + b) = r.changesFrom year a ++ r.changesFrom (year + a) b := by
  induction a generalizing year with
  | zero => simp [changesFrom]
  | succ a ih =>
    have hyear : year + ((a + 1 : Nat) : Int) = year + 1 + a := by omega
    rw [Nat.add_right_comm, changesFrom_succ, ih, changesFrom_succ, List.append_assoc, hyear]

/-- The changes of a rule are spaced, from a wall time in the first days of the year on. -/
theorem isSpaced_changesFrom (hr : r.isRegular = true) {edge before year : Int}
    (hbefore : isOffset before = true) (hedge : edge ≤ (Date.newYear year + 5) * daySeconds)
    (years : Nat) : isSpaced edge before (r.changesFrom year years) = true := by
  -- The changes of a year are over well before the next one begins
  induction years generalizing edge before year with
  | zero => rfl
  | succ years ih =>
    obtain ⟨c, d, hchanges, hc, hd, hfirst, hbetween, hlast⟩ := exists_changesIn hr year
    rw [changesFrom_succ, hchanges]
    show isSpaced edge before (c :: d :: r.changesFrom (year + 1) years) = true
    have hcoffset := isOffset_iff.1 hc
    have hdoffset := isOffset_iff.1 hd
    rw [isOffset_iff] at hbefore
    rw [isSpaced_cons, isSpaced_cons]
    simp only [daySeconds] at *
    exact ⟨by omega, by omega, ih hd (by omega)⟩

theorem isOffset_changesFrom (hr : r.isRegular = true) (year : Int) (years : Nat) :
    ∀ c ∈ r.changesFrom year years, isOffset c.offset = true := by
  induction years generalizing year with
  | zero => exact List.forall_mem_nil _
  | succ years ih =>
    obtain ⟨c, d, hchanges, hc, hd, -⟩ := exists_changesIn hr year
    rw [changesFrom_succ, hchanges]
    exact List.forall_mem_cons.2 ⟨hc, List.forall_mem_cons.2 ⟨hd, ih (year + 1)⟩⟩

end SummerRule

/-! ## Regular zones -/

namespace Zone

open Change

/-- The first wall time of the calendar, which no change on record lies before. -/
def firstEdge : Int :=
  Date.newYear 1 * daySeconds

/-- The changes on record are spaced, and a regular rule follows in a later year. -/
def isRegular (z : Zone) : Bool :=
  isOffset z.first && z.recorded.all (isOffset ·.offset) &&
    isSpaced firstEdge z.first z.recorded &&
    match z.rule with
    | none => true
    | some r =>
      r.isRegular && (reach firstEdge z.first z.recorded).1 ≤ Date.newYear r.since * daySeconds

theorem yearOf_bounds (time : Int) : Date.newYear (yearOf time) * daySeconds ≤ time ∧
    time < Date.newYear (yearOf time + 1) * daySeconds := by
  have hday := Date.newYear_bounds (time / daySeconds)
  rw [yearOf]
  simp only [daySeconds] at *
  omega

section Regular

variable {z : Zone} (hz : z.isRegular = true)
include hz

/-- The changes up to the end of a year are spaced. -/
theorem isSpaced_changes (year : Int) :
    isSpaced firstEdge z.first (z.changes year) = true := by
  simp only [isRegular, Bool.and_eq_true, List.all_eq_true] at hz
  obtain ⟨⟨⟨hfirst, hrecorded⟩, hspaced⟩, hrule⟩ := hz
  rw [changes, isSpaced_append, hspaced, Bool.true_and]
  cases hr : z.rule with
  | none => rfl
  | some r =>
    simp only [hr, Bool.and_eq_true, decide_eq_true_eq] at hrule
    refine r.isSpaced_changesFrom hrule.1 (isOffset_reach hfirst hrecorded) ?_ _
    simp only [daySeconds] at *
    omega

theorem isOffset_reach_changes (year : Int) :
    isOffset (reach firstEdge z.first (z.changes year)).2 = true := by
  simp only [isRegular, Bool.and_eq_true, List.all_eq_true] at hz
  obtain ⟨⟨⟨hfirst, hrecorded⟩, -⟩, hrule⟩ := hz
  refine isOffset_reach hfirst ?_
  cases hr : z.rule with
  | none => simpa only [changes, hr, List.append_nil] using hrecorded
  | some r =>
    simp only [hr, Bool.and_eq_true] at hrule
    simp only [changes, hr]
    exact List.forall_mem_append.2 ⟨hrecorded, r.isOffset_changesFrom hrule.1 _ _⟩

/-- Later years add changes behind those up to the end of a year, none of which has to do with a
wall time in the year. -/
theorem exists_changes_append {year later : Int} (hle : year ≤ later) :
    ∃ more, z.changes later = z.changes year ++ more ∧
      ∀ edge, edge ≤ (Date.newYear (year + 1) + 5) * daySeconds →
        isSpaced edge (reach firstEdge z.first (z.changes year)).2 more = true := by
  have hoffset := isOffset_reach_changes hz year
  simp only [isRegular, Bool.and_eq_true] at hz
  obtain ⟨-, hrule⟩ := hz
  cases hr : z.rule with
  | none => exact ⟨[], by simp only [changes, hr, List.append_nil], fun _ _ => rfl⟩
  | some r =>
    simp only [hr, Bool.and_eq_true] at hrule
    -- The rule adds the changes of the years between, of which there may be none
    obtain ⟨k, hk⟩ : ∃ k, (later + 1 - r.since).toNat = (year + 1 - r.since).toNat + k :=
      ⟨_, (Nat.add_sub_cancel' (by omega)).symm⟩
    refine ⟨r.changesFrom (r.since + (year + 1 - r.since).toNat) k, ?_, fun edge hedge => ?_⟩
    · simp only [changes, hr]
      show _ ++ r.changesFrom r.since (later + 1 - r.since).toNat = _
      rw [hk, r.changesFrom_add, List.append_assoc]
      rfl
    · have hyear := Date.newYear_le_newYear
        (show year + 1 ≤ r.since + (year + 1 - r.since).toNat by omega)
      refine r.isSpaced_changesFrom hrule.1 hoffset ?_ k
      simp only [daySeconds] at *
      omega

/-- Changes of later years are not in force. -/
theorem offsetAt_eq_of_le {time year : Int} (hle : yearOf time ≤ year) :
    z.offsetAt time = Change.offsetAt time z.first (z.changes year) := by
  obtain ⟨more, hmore, hspaced⟩ := exists_changes_append hz hle
  have hoffset := isOffset_iff.1 (isOffset_reach_changes hz (yearOf time))
  have hyear := (yearOf_bounds time).2
  rw [hmore, offsetAt, Change.offsetAt, Change.offsetAt, offsetAfter_append _ firstEdge]
  -- The time lies before all that is added
  refine Change.offsetAt_of_lt (hspaced _ le_rfl) ?_
  simp only [daySeconds] at *
  omega

/-- Wall times are read without the changes of later years. -/
theorem offsetAtWall_eq_of_le {wall year : Int} (hle : yearOf wall ≤ year) (fold : Bool) :
    z.offsetAtWall wall fold = Change.offsetAtWall wall fold z.first (z.changes year) := by
  obtain ⟨more, hmore, hspaced⟩ := exists_changes_append hz hle
  have hyear := (yearOf_bounds wall).2
  rw [hmore, offsetAtWall, Change.offsetAtWall, Change.offsetAtWall,
    offsetAfter_append _ firstEdge]
  refine Change.offsetAtWall_of_lt fold (hspaced _ le_rfl) ?_
  simp only [daySeconds] at *
  omega

/-- A zone whose changes are spaced is readable. -/
theorem isReadable_of_isRegular : z.IsReadable where
  offsetAt_sub {wall time} fold hshown := by
    -- The changes up to a year that is late enough for all three times
    obtain ⟨year, hwall, htime, hread⟩ : ∃ year, yearOf wall ≤ year ∧ yearOf time ≤ year ∧
        yearOf (wall - z.offsetAtWall wall fold) ≤ year :=
      ⟨max (yearOf wall) (max (yearOf time) (yearOf (wall - z.offsetAtWall wall fold))),
        by omega, by omega, by omega⟩
    rw [Shows, offsetAt_eq_of_le hz htime] at hshown
    rw [offsetAt_eq_of_le hz hread, offsetAtWall_eq_of_le hz hwall]
    exact Change.offsetAt_sub_offsetAtWall fold (isSpaced_changes hz year) hshown
  exists_fold {wall time} hshown := by
    obtain ⟨year, hwall, htime⟩ : ∃ year, yearOf wall ≤ year ∧ yearOf time ≤ year :=
      ⟨max (yearOf wall) (yearOf time), by omega, by omega⟩
    simp only [offsetAtWall_eq_of_le hz hwall]
    rw [Shows] at hshown
    rw [← hshown, offsetAt_eq_of_le hz htime]
    exact Change.exists_offsetAtWall_eq time (isSpaced_changes hz year)

end Regular

theorem isRegular_of_known : ∀ z ∈ known, z.isRegular = true := by
  decide +kernel

/-- The zones that have data are readable. -/
theorem isReadable_table : table.IsReadable := fun _ _ h =>
  isReadable_of_isRegular (isRegular_of_known _ (List.mem_of_find?_eq_some h))

end Zone

end ClockFace
