import ClockFace.Proofs.DemoMode
import ClockFace.Proofs.NumeralText
import ClockFace.Proofs.RejectedSetting

/-! # Demo times

A demo time of four digits moves the pinned instant within its day, or on a 12-hour clock within
the half of the day that it lies in. Either is a turn of the hours (`turnMicros`): as many hours as
a turn has start the next one. So the wall time is cut into whole turns, which a demo time counts
on by the turns that its hours make, and the rest, of which it keeps the seconds and less
(`Instant.setTime`). Turns, unlike hours and minutes, add up over many demo times.

## Key results

- `readDemoTime_of_decimal`, `readDemoTime_of_not_decimal`: the demo times of four characters
- `Instant.withDemoTime_eq_ite`: what one demo time makes of an instant
- `Instant.turn_setTimes`: the turns that many demo times make
- `demoTimes_calls`: demo times sent to a clock, any number of them
-/

namespace ClockFace

/-! ## Four digits -/

/-- The number that two digits stand for. -/
def ofDigitPair (a b : Char) : Nat :=
  10 * (a.toNat - '0'.toNat) + (b.toNat - '0'.toNat)

/-- The hours and the minutes of a text of four ASCII digits. -/
def timeOfDigits? : List Char → Option (Nat × Nat)
  | [a, b, c, d] =>
    if a.isDigit && b.isDigit && c.isDigit && d.isDigit then
      some (ofDigitPair a b, ofDigitPair c d)
    else none
  | _ => none

/-- The hours and the minutes of a text of four decimal digits, of whatever scripts. -/
def decimalTime? : List Char → Option (Nat × Nat)
  | [a, b, c, d] => do
    let hours ← Number.decimalPair? a b
    let minutes ← Number.decimalPair? c d
    return (hours, minutes)
  | _ => none

theorem decimalPair?_of_isDigit {a b : Char} (ha : a.isDigit = true) (hb : b.isDigit = true) :
    Number.decimalPair? a b = some (ofDigitPair a b) := by
  rw [Number.decimalPair?, Text.decimalValue?_of_isDigit ha, Text.decimalValue?_of_isDigit hb]
  rfl

theorem decimalTime?_of_digits {digits : List Char} {time : Nat × Nat}
    (h : timeOfDigits? digits = some time) : decimalTime? digits = some time := by
  rw [timeOfDigits?.eq_def] at h
  split at h
  · next a b c d =>
    split at h
    · next hdigits =>
      simp only [Bool.and_eq_true] at hdigits
      obtain ⟨⟨⟨ha, hb⟩, hc⟩, hd⟩ := hdigits
      rw [decimalTime?, decimalPair?_of_isDigit ha hb, decimalPair?_of_isDigit hc hd]
      exact h
    · cases h
  · cases h

theorem wholeOfText_pair {a b : Char} (ha : Text.isDigit a = true) (hb : Text.isDigit b = true) :
    wholeOfText (String.ofList [a, b]) = match Number.decimalPair? a b with
      | some n => .ok n
      | none => .error (.numeral (String.ofList [a, b])) := by
  rw [wholeOfText, String.toList_ofList, Number.readInteger_pair ha hb]
  cases Number.decimalPair? a b <;> rfl

namespace Clock

/-- What is read from a demo time of length four. -/
theorem readDemoTime_eq_ite {text : String} {a b c d : Char} (h : text.toList = [a, b, c, d]) :
    readDemoTime text =
      if Text.isDigit a && Text.isDigit b && Text.isDigit c && Text.isDigit d then do
        let hours ← wholeOfText (String.ofList [a, b])
        let minutes ← wholeOfText (String.ofList [c, d])
        return (hours, minutes)
      else .error (.demoTime text) := by
  rw [readDemoTime, h]
  simp only [List.all_cons, List.all_nil, Bool.and_true, Bool.and_assoc, List.take_succ_cons,
    List.take_zero, List.drop_succ_cons, List.drop_zero]
  cases Text.isDigit a && (Text.isDigit b && (Text.isDigit c && Text.isDigit d)) <;> rfl

/-- A demo time of four decimal digits is read as the two numbers of two digits. -/
theorem readDemoTime_of_decimal {text : String} {hours minutes : Nat}
    (h : decimalTime? text.toList = some (hours, minutes)) :
    text.length = 4 ∧ readDemoTime text = .ok ((hours : Int), (minutes : Int)) := by
  rw [← String.length_toList]
  rw [decimalTime?.eq_def] at h
  split at h
  · next a b c d hdigits =>
    cases hhours : Number.decimalPair? a b with
    | none =>
      rw [hhours] at h
      cases h
    | some m =>
      cases hminutes : Number.decimalPair? c d with
      | none =>
        rw [hhours, hminutes] at h
        cases h
      | some n =>
        rw [hhours, hminutes] at h
        obtain ⟨rfl, rfl⟩ := Prod.mk.inj (Option.some.inj h)
        obtain ⟨ha, hb⟩ := Number.isDigit_of_decimalPair? hhours
        obtain ⟨hc, hd⟩ := Number.isDigit_of_decimalPair? hminutes
        rw [readDemoTime_eq_ite hdigits, ha, hb, hc, hd, wholeOfText_pair ha hb,
          wholeOfText_pair hc hd, hhours, hminutes, hdigits]
        exact ⟨rfl, rfl⟩
  · cases h

/-- A demo time of length four that is not four decimal digits is refused. -/
theorem readDemoTime_of_not_decimal {text : String} (hlength : text.length = 4)
    (h : decimalTime? text.toList = none) :
    ∃ e, readDemoTime text = .error e ∧ e.kind = .value := by
  rw [← String.length_toList] at hlength
  obtain ⟨a, b, c, d, hdigits⟩ : ∃ a b c d, text.toList = [a, b, c, d] :=
    match text.toList, hlength with
    | [a, b, c, d], _ => ⟨a, b, c, d, rfl⟩
  rw [hdigits, decimalTime?] at h
  rw [readDemoTime_eq_ite hdigits]
  split
  · next hall =>
    simp only [Bool.and_eq_true] at hall
    obtain ⟨⟨⟨ha, hb⟩, hc⟩, hd⟩ := hall
    rw [wholeOfText_pair ha hb, wholeOfText_pair hc hd]
    cases hhours : Number.decimalPair? a b with
    | none => exact ⟨_, rfl, rfl⟩
    | some m =>
      cases hminutes : Number.decimalPair? c d with
      | none => exact ⟨_, rfl, rfl⟩
      | some n =>
        rw [hhours, hminutes] at h
        cases h
  · exact ⟨_, rfl, rfl⟩

/-- A demo time of four ASCII digits is read as the two numbers of two digits. -/
theorem readDemoTime_eq {text : String} {hours minutes : Nat}
    (h : timeOfDigits? text.toList = some (hours, minutes)) :
    text.length = 4 ∧ readDemoTime text = .ok ((hours : Int), (minutes : Int)) :=
  readDemoTime_of_decimal (decimalTime?_of_digits h)

end Clock

/-! ## Turns -/

/-- The hours of a turn: those of a day, or of half a day on a 12-hour clock. -/
def turnHours (hour24 : Bool) : Nat :=
  if hour24 then 24 else 12

/-- Microseconds of a minute. -/
def minuteMicros : Int := 60 * secondMicros

/-- Microseconds of a turn. -/
def turnMicros (hour24 : Bool) : Int :=
  turnHours hour24 * 60 * minuteMicros

@[simp] theorem turnHours_true : turnHours true = 24 := rfl

@[simp] theorem turnHours_false : turnHours false = 12 := rfl

@[simp] theorem turnMicros_true : turnMicros true = 86400000000 := rfl

@[simp] theorem turnMicros_false : turnMicros false = 43200000000 := rfl

theorem minuteMicros_eq : minuteMicros = 60000000 := rfl

namespace Instant

/-- The number of the turn that an instant lies in, counted from the start of 1970. -/
def turn (hour24 : Bool) (i : Instant) : Int :=
  i.wall / turnMicros hour24

/-- The instant with its time within the turn moved to hours and minutes. -/
def setTime (hour24 : Bool) (i : Instant) (hours minutes : Nat) : Instant :=
  { i with
    wall := i.turn hour24 * turnMicros hour24 + (hours * 60 + minutes) * minuteMicros +
      i.wall % minuteMicros
    fold := false }

/-- A demo time sets the time within the turn, if this lies in the calendar. -/
theorem withDemoTime_eq_ite (hour24 : Bool) (i : Instant) (hours minutes : Nat) :
    Clock.withDemoTime hour24 i hours minutes =
      if inCalendar (i.setTime hour24 hours minutes).wall then
        .ok (i.setTime hour24 hours minutes)
      else .error .dateRange := by
  have hwall : ∀ hour : Int, hour = (if hour24 then (hours : Int) else i.hour / 12 * 12 + hours) →
      i.wall + ((hour - i.hour) * 3600 + (minutes - i.minute) * 60) * secondMicros =
        (i.setTime hour24 hours minutes).wall := by
    rintro hour rfl
    cases hour24 <;>
      simp only [setTime, turn, turnMicros_true, turnMicros_false, minuteMicros_eq, hour, minute,
        secondOfDay, wallSeconds, daySeconds, secondMicros, if_true, Bool.false_eq_true,
        if_false] <;>
      omega
  rw [Clock.withDemoTime, addWall, hwall _ rfl, checkedWall]
  split <;> rfl

theorem withDemoTime_eq {hour24 : Bool} {i : Instant} {hours minutes : Nat}
    (h : inCalendar (i.setTime hour24 hours minutes).wall = true) :
    Clock.withDemoTime hour24 i hours minutes = .ok (i.setTime hour24 hours minutes) := by
  rw [withDemoTime_eq_ite, if_pos h]

/-- The instants differ by whole minutes of the wall clock. -/
structure SameSecond (i j : Instant) : Prop where
  second : j.second = i.second
  micros : j.micros = i.micros
  frame : j.frame = i.frame

theorem SameSecond.trans {i j k : Instant} (hij : i.SameSecond j) (hjk : j.SameSecond k) :
    i.SameSecond k :=
  ⟨hjk.second.trans hij.second, hjk.micros.trans hij.micros, hjk.frame.trans hij.frame⟩

section SetTime

variable (hour24 : Bool) (i : Instant) (hours : Nat) {minutes : Nat}

theorem turn_setTime (h : minutes ≤ 59) :
    (i.setTime hour24 hours minutes).turn hour24 =
      i.turn hour24 + (hours / turnHours hour24 : Nat) := by
  cases hour24 <;>
    simp only [setTime, turn, turnMicros_true, turnMicros_false, minuteMicros_eq, turnHours_true,
      turnHours_false] <;>
    omega

theorem hour_setTime (h : minutes ≤ 59) :
    (i.setTime hour24 hours minutes).hour % turnHours hour24 = hours % turnHours hour24 := by
  cases hour24 <;>
    simp only [setTime, turn, turnMicros_true, turnMicros_false, minuteMicros_eq, turnHours_true,
      turnHours_false, hour, secondOfDay, wallSeconds, daySeconds, secondMicros] <;>
    omega

theorem minute_setTime (h : minutes ≤ 59) : (i.setTime hour24 hours minutes).minute = minutes := by
  cases hour24 <;>
    simp only [setTime, turn, turnMicros_true, turnMicros_false, minuteMicros_eq, minute,
      secondOfDay, wallSeconds, daySeconds, secondMicros] <;>
    omega

theorem sameSecond_setTime (minutes : Nat) : i.SameSecond (i.setTime hour24 hours minutes) := by
  refine ⟨?_, ?_, rfl⟩ <;> cases hour24 <;>
    simp only [setTime, turn, turnMicros_true, turnMicros_false, minuteMicros_eq, second, micros,
      secondOfDay, wallSeconds, daySeconds, secondMicros] <;>
    omega

end SetTime

/-- An instant lies in the calendar if its turn begins there. -/
theorem inCalendar_iff_turn (hour24 : Bool) (i : Instant) :
    inCalendar i.wall = true ↔
      firstWall ≤ i.turn hour24 * turnMicros hour24 ∧
        i.turn hour24 * turnMicros hour24 < endWall := by
  rw [inCalendar, Bool.and_eq_true, decide_eq_true_eq, decide_eq_true_eq, turn, firstWall, endWall]
  cases hour24 <;> simp only [turnMicros_true, turnMicros_false] <;> omega

/-- The calendar has no gaps. -/
theorem inCalendar_of_turn_le {hour24 : Bool} {i j : Instant} {last : Int}
    (hi : inCalendar i.wall = true) (hij : i.turn hour24 ≤ j.turn hour24)
    (hlast : j.turn hour24 ≤ last) (hend : last * turnMicros hour24 < endWall) :
    inCalendar j.wall = true := by
  have hnonneg : 0 ≤ turnMicros hour24 := by cases hour24 <;> decide
  rw [inCalendar_iff_turn hour24] at hi ⊢
  exact ⟨Int.le_trans hi.1 (Int.mul_le_mul_of_nonneg_right hij hnonneg),
    Int.lt_of_le_of_lt (Int.mul_le_mul_of_nonneg_right hlast hnonneg) hend⟩

/-- The turns that demo times make. -/
def turns (hour24 : Bool) : List (Nat × Nat) → Nat
  | [] => 0
  | t :: rest => t.1 / turnHours hour24 + turns hour24 rest

/-- The instant after some demo times, the first one first. -/
def setTimes (hour24 : Bool) (i : Instant) (times : List (Nat × Nat)) : Instant :=
  times.foldl (fun i t => i.setTime hour24 t.1 t.2) i

/-- Of hours up to those of a turn, just these make one. -/
theorem turns_eq_countP {hour24 : Bool} {times : List (Nat × Nat)}
    (h : ∀ t ∈ times, t.1 ≤ turnHours hour24) :
    turns hour24 times = times.countP (·.1 = turnHours hour24) := by
  have hpos : 0 < turnHours hour24 := by cases hour24 <;> decide
  induction times with
  | nil => rfl
  | cons t rest ih =>
    rw [List.forall_mem_cons] at h
    rw [turns, ih h.2, List.countP_cons, Nat.add_comm]
    obtain hlt | heq := Nat.lt_or_eq_of_le h.1
    · rw [Nat.div_eq_of_lt hlt, if_neg (by simpa using Nat.ne_of_lt hlt)]
    · rw [heq, Nat.div_self hpos, if_pos (by simp)]

theorem turns_eq_zero {times : List (Nat × Nat)} (h : ∀ t ∈ times, t.1 ≤ 23) :
    turns true times = 0 := by
  have hle : ∀ t ∈ times, t.1 ≤ turnHours true := fun t ht => Nat.le_succ_of_le (h t ht)
  rw [turns_eq_countP hle, List.countP_eq_zero]
  intro t ht
  have hhour := h t ht
  rw [decide_eq_true_eq, turnHours_true]
  omega

section SetTimes

variable (hour24 : Bool) {times : List (Nat × Nat)}

/-- Turns add up. -/
theorem turn_setTimes (h : ∀ t ∈ times, t.2 ≤ 59) (i : Instant) :
    (i.setTimes hour24 times).turn hour24 = i.turn hour24 + turns hour24 times := by
  induction times generalizing i with
  | nil => exact (Int.add_zero _).symm
  | cons t rest ih =>
    rw [List.forall_mem_cons] at h
    have hstep := turn_setTime hour24 i t.1 h.1
    have hrest := ih h.2 (i.setTime hour24 t.1 t.2)
    simp only [setTimes, List.foldl_cons, turns] at hrest ⊢
    rw [hrest, hstep]
    omega

theorem sameSecond_setTimes (i : Instant) (times : List (Nat × Nat)) :
    i.SameSecond (i.setTimes hour24 times) :=
  List.foldlRecOn times _ (motive := i.SameSecond) ⟨rfl, rfl, rfl⟩ fun j hj t _ =>
    hj.trans (sameSecond_setTime hour24 j t.1 t.2)

/-- The last demo time is the one that is shown. -/
theorem time_setTimes (h : ∀ t ∈ times, t.2 ≤ 59) {last : Nat × Nat}
    (hlast : times.getLast? = some last) (i : Instant) :
    (i.setTimes hour24 times).hour % turnHours hour24 = last.1 % turnHours hour24 ∧
      (i.setTimes hour24 times).minute = last.2 := by
  obtain ⟨before, rfl⟩ := List.getLast?_eq_some_iff.1 hlast
  have hminutes : last.2 ≤ 59 := h last (List.mem_append_right _ List.mem_cons_self)
  have hsplit : i.setTimes hour24 (before ++ [last]) =
      (i.setTimes hour24 before).setTime hour24 last.1 last.2 := by
    rw [setTimes, List.foldl_append]
    rfl
  rw [hsplit]
  exact ⟨hour_setTime hour24 _ last.1 hminutes, minute_setTime hour24 _ last.1 hminutes⟩

end SetTimes

/-- The number of the half-day that an instant lies in: two for every day, counted from the start
of 1970. -/
def halfDay (i : Instant) : Int :=
  2 * (i.wall / dayMicros) + i.hour / 12

theorem halfDay_eq_turn (i : Instant) : i.halfDay = i.turn false := by
  simp only [halfDay, dayMicros, hour, secondOfDay, wallSeconds, daySeconds, secondMicros, turn,
    turnMicros_false]
  omega

theorem hour_emod_day (i : Instant) : i.hour % 24 = i.hour := by
  simp only [hour, secondOfDay, daySeconds]
  omega

theorem date_eq_of_turn {i j : Instant} (h : j.turn true = i.turn true) : j.date = i.date :=
  congrArg Date.ofDay h

end Instant

namespace Clock

open Attempt

/-! ## Commands -/

/-- The demo time that a call sets, if it gives no milliseconds and four ASCII digits. -/
def Call.demoTime? (c : Call) : Option (Nat × Nat) :=
  match c.command with
  | .demo "clock" args =>
    match (args.value? "millis").getD .null, args.value? "hhmm" with
    | .null, some (.text text) => timeOfDigits? text.toList
    | _, _ => none
  | _ => none

/-- The calls are all carried out, none of them fails. -/
def AllDone (around : Surroundings) : Session Clock → List Call → Prop
  | _, [] => True
  | s, c :: rest => c.outcome around s = .ok none ∧ AllDone around (c.after around s) rest

section Calls

variable {around : Surroundings} {s : Session Clock} {i : Instant}

theorem Call.demoTime?_eq_some {c : Call} {t : Nat × Nat} (h : c.demoTime? = some t) :
    ∃ args text, c.command = .demo "clock" args ∧ (args.value? "millis").getD .null = .null ∧
      args.value? "hhmm" = some (.text text) ∧ timeOfDigits? text.toList = some t := by
  rw [demoTime?] at h
  split at h
  · next args hcommand =>
    split at h
    · next text hmillis hhhmm => exact ⟨args, text, hcommand, hmillis, hhhmm, h⟩
    · cases h
  · cases h

/-- A demo time of four digits makes the instant with this time. -/
theorem demoInstant_of_digits {args : Config.Fields} {text : String} {t : Nat × Nat}
    (hmillis : (args.value? "millis").getD .null = .null)
    (hhhmm : args.value? "hhmm" = some (.text text)) (ht : timeOfDigits? text.toList = some t)
    (localZone : Zone) (clock : Clock)
    (hcalendar : inCalendar (i.setTime clock.config.hour24 t.1 t.2).wall = true) :
    demoInstant localZone clock i args = .ok (i.setTime clock.config.hour24 t.1 t.2) := by
  obtain ⟨hlength, hread⟩ := readDemoTime_eq ht
  have htime : demoTime? (.text text) = .ok (some ((t.1 : Int), (t.2 : Int))) := by
    rw [demoTime?, if_pos hlength, hread]
    rfl
  rw [demoInstant, hmillis, hhhmm]
  simp only [Option.getD_some, htime, bind, Except.bind]
  exact Instant.withDemoTime_eq hcalendar

/-- A demo time is set in the demo mode, and leaves the configuration. -/
theorem after_demoTime (around : Surroundings) (hstate : s.state.demoState = (true, some i))
    {c : Call} {t : Nat × Nat} (hc : c.demoTime? = some t)
    (hcalendar : inCalendar (i.setTime s.state.config.hour24 t.1 t.2).wall = true) :
    c.outcome around s = .ok none ∧
      (c.after around s).state.demoState =
        (true, some (i.setTime s.state.config.hour24 t.1 t.2)) ∧
      (c.after around s).state.config = s.state.config := by
  obtain ⟨localZone, now, command⟩ := c
  obtain ⟨args, text, rfl, hmillis, hhhmm, ht⟩ := Call.demoTime?_eq_some hc
  obtain ⟨hdemo, hpinned⟩ := Prod.mk.inj hstate
  let there : Surroundings := { around with localZone, now }
  have hmade := demoInstant_of_digits hmillis hhhmm ht localZone s.state hcalendar
  obtain ⟨houtcome, hafter, -⟩ := @perform_clock there s i hdemo hpinned args
  rw [hmade] at houtcome hafter
  have hconfig : Keeps (fun clock => clock.config = s.state.config)
      (demoCommand there "clock" args) :=
    keeps_demoCommand (fun _ _ _ h => h) there "clock" args
  refine ⟨houtcome, hafter, ?_⟩
  have hperform := (perform_demo_eq there s "clock" args).2
  exact (congrArg (fun t : Session Clock => t.state.config) hperform).trans (hconfig s rfl)

/-- Demo times are set one after the other, as long as the turn that they reach begins in the
calendar. -/
theorem run_demoTimes {hour24 : Bool} (hhour24 : s.state.config.hour24 = hour24)
    (hstate : s.state.demoState = (true, some i)) (hcalendar : inCalendar i.wall = true)
    {calls : List Call} {times : List (Nat × Nat)}
    (hcalls : calls.map Call.demoTime? = times.map some) (hminutes : ∀ t ∈ times, t.2 ≤ 59)
    (hend : (i.turn hour24 + Instant.turns hour24 times) * turnMicros hour24 < endWall) :
    AllDone around s calls ∧
      (calls.foldl (Call.after around) s).state.demoState =
        (true, some (i.setTimes hour24 times)) := by
  induction calls generalizing s i times with
  | nil =>
    obtain rfl := List.map_eq_nil_iff.1 hcalls.symm
    exact ⟨trivial, hstate⟩
  | cons c rest ih =>
    obtain ⟨t, others, rfl, hfirst, hrest⟩ := List.map_eq_cons_iff.1 hcalls.symm
    rw [List.forall_mem_cons] at hminutes
    have hturn := i.turn_setTime hour24 t.1 hminutes.1
    have hturns : Instant.turns hour24 (t :: others) =
        t.1 / turnHours hour24 + Instant.turns hour24 others := rfl
    generalize t.1 / turnHours hour24 = made at hturn hturns
    have hnext : inCalendar (i.setTime hour24 t.1 t.2).wall = true :=
      Instant.inCalendar_of_turn_le hcalendar (by omega) (by omega) hend
    obtain ⟨hdone, hafter, hconfig⟩ :=
      after_demoTime around hstate hfirst.symm (hhour24.symm ▸ hnext)
    have hreached : (i.setTime hour24 t.1 t.2).turn hour24 + Instant.turns hour24 others =
        i.turn hour24 + Instant.turns hour24 (t :: others) := by
      omega
    rw [hhour24] at hafter
    obtain ⟨hothers, hlast⟩ := ih ((congrArg Config.hour24 hconfig).trans hhour24) hafter hnext
      hrest.symm hminutes.2 (hreached ▸ hend)
    exact ⟨⟨hdone, hothers⟩, hlast⟩

end Calls

/-- What demo times make of a demo clock, any number of them.

An instant is pinned in the demo mode, and calls set demo times by four digits each. On a
24-hour clock with hours below 24 the instant is then on the day that it was, at the last of
these times. On a 12-hour clock with hours up to 12 it has moved on by as many half-days as
there are demo times with the hour 12, as long as this half-day begins before the year 10000,
and is at the last of these times of the half-day. All of the calls succeed, and seconds,
microseconds and the frame of the instant stay. -/
theorem demoTimes_calls (around : Surroundings) {s : Session Clock} {i : Instant}
    (hstate : s.state.demoState = (true, some i)) (hcalendar : inCalendar i.wall = true)
    {calls : List Call} {times : List (Nat × Nat)}
    (hcalls : calls.map Call.demoTime? = times.map some) (hminutes : ∀ t ∈ times, t.2 ≤ 59)
    {last : Nat × Nat} (hlast : times.getLast? = some last) :
    let t := calls.foldl (Call.after around) s
    let rolled := times.countP (·.1 = 12)
    (s.state.config.hour24 = true → (∀ t ∈ times, t.1 ≤ 23) →
      AllDone around s calls ∧ ∃ j, t.state.demoState = (true, some j) ∧ i.SameSecond j ∧
        j.date = i.date ∧ j.hour = last.1 ∧ j.minute = last.2) ∧
    (s.state.config.hour24 = false → (∀ t ∈ times, t.1 ≤ 12) →
      (i.halfDay + rolled) * turnMicros false < endWall →
      AllDone around s calls ∧ ∃ j, t.state.demoState = (true, some j) ∧ i.SameSecond j ∧
        j.halfDay = i.halfDay + rolled ∧ j.hour % 12 = last.1 % 12 ∧ j.minute = last.2) := by
  intro t rolled
  constructor
  · intro hhour24 hhours
    have hnone : Instant.turns true times = 0 := Instant.turns_eq_zero hhours
    have hend : (i.turn true + Instant.turns true times) * turnMicros true < endWall := by
      rw [hnone]
      simpa using ((Instant.inCalendar_iff_turn true i).1 hcalendar).2
    obtain ⟨hdone, hreached⟩ := run_demoTimes hhour24 hstate hcalendar hcalls hminutes hend
    have hturn := Instant.turn_setTimes true hminutes i
    rw [hnone] at hturn
    obtain ⟨hhour, hminute⟩ := Instant.time_setTimes true hminutes hlast i
    have hday := Instant.hour_emod_day (i.setTimes true times)
    have hlastHour := hhours last (List.mem_of_getLast? hlast)
    refine ⟨hdone, _, hreached, Instant.sameSecond_setTimes true i times,
      Instant.date_eq_of_turn (by simpa using hturn), ?_, hminute⟩
    rw [turnHours_true] at hhour
    omega
  · intro hhour24 hhours hend
    have hrolled : Instant.turns false times = rolled := Instant.turns_eq_countP hhours
    rw [← hrolled, Instant.halfDay_eq_turn] at hend
    obtain ⟨hdone, hreached⟩ := run_demoTimes hhour24 hstate hcalendar hcalls hminutes hend
    have hturn := Instant.turn_setTimes false hminutes i
    rw [hrolled, ← Instant.halfDay_eq_turn, ← Instant.halfDay_eq_turn] at hturn
    obtain ⟨hhour, hminute⟩ := Instant.time_setTimes false hminutes hlast i
    exact ⟨hdone, _, hreached, Instant.sameSecond_setTimes false i times, hturn, hhour, hminute⟩

/-- A 12-hour clock in the afternoon of the last day of a February. The hour 12 takes it over
midnight into March, and the next one over noon, and then it stays in that half of the day. -/
theorem demoTimes_calls_february :
    let around : Surroundings :=
      ⟨DateText.write, .ofSkeletons .localeData, Zone.table, .utc, fun _ => .error .dateRange⟩
    let i : Instant := ⟨1709219045000250, .zone .utc, false⟩
    let clock : Clock := ⟨{ timezone := some "UTC" }, some .utc, true, some i,
      Selector.fresh⟩
    let calls : List Call := ["1259", "1230", "0930"].map fun text =>
      ⟨around.localZone, around.now, .demo "clock" [("millis", .null), ("hhmm", .text text)]⟩
    let times := [(12, 59), (12, 30), (9, 30)]
    let s : Session Clock := ⟨clock, []⟩
    i.date = ⟨2024, 2, 29⟩ ∧ i.hour = 15 ∧ inCalendar i.wall = true ∧
      calls.map Call.demoTime? = times.map some ∧
      AllDone around s calls ∧ ∃ j,
        (calls.foldl (Call.after around) s).state.demoState = (true, some j) ∧ i.SameSecond j ∧
        j.halfDay = i.halfDay + 2 ∧ j.hour % 12 = 9 ∧ j.minute = 30 ∧
        j.date = ⟨2024, 3, 1⟩ := by
  intro around i clock calls times s
  have hcalendar : inCalendar i.wall = true := by decide
  have hcalls : calls.map Call.demoTime? = times.map some := by decide +kernel
  have hstate : s.state.demoState = (true, some i) := rfl
  have hlast : times.getLast? = some (9, 30) := rfl
  obtain ⟨hdone, j, hreached, hsame, hhalf, hhour, hminute⟩ :=
    (demoTimes_calls around hstate hcalendar hcalls (by decide) hlast).2 rfl (by decide)
      (by decide)
  have hfinal : (calls.foldl (Call.after around) s).state.demoState =
      (true, some ⟨1709328605000250, i.frame, false⟩) := by decide +kernel
  have hj : j.wall = 1709328605000250 := by
    rw [hfinal] at hreached
    obtain rfl := Option.some.inj (Prod.mk.inj hreached).2
    rfl
  have hdate : j.date = ⟨2024, 3, 1⟩ := by
    rw [Instant.date, hj]
    decide
  exact ⟨by decide, by decide, hcalendar, hcalls, hdone, j, hreached, hsame, hhalf, hhour, hminute,
    hdate⟩

end Clock

end ClockFace
