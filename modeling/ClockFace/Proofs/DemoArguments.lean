import ClockFace.Proofs.DemoMillis
import ClockFace.Proofs.DemoTime
import ClockFace.Proofs.TuningStrings

/-! # Arguments of a demo time

The arguments of a demo time are texts. Those that are no numeral, or not four digits, are refused
for their value, and so are milliseconds outside the years of the calendar. But not everything that
cannot be shown is refused for that reason (`Overruns`): milliseconds that are too many for the
calendar of the machine, and arguments whose wall time is outside the calendar, fail in another way.
And a time of day that has not the length of four is not looked at.

## Key results

- `momentOfMillis_of_inYears`, `momentOfMillis_of_not_inYears`: milliseconds as a moment
- `millisOverrun_iff`, `failsOtherwise_demoInstant`: the arguments that fail in another way
- `demoArguments_failures`: which failures a demo time can end in
-/

namespace ClockFace

namespace Clock

open Attempt

/-! ## Other failures -/

/-- The result is a failure, and no value has been refused. -/
def FailsOtherwise {α : Type} (result : Except Failure α) : Prop :=
  ∃ e, result = .error e ∧ e.kind ≠ .value

@[simp] theorem failsOtherwise_ok {α : Type} (a : α) :
    ¬FailsOtherwise (.ok a : Except Failure α) := by
  rintro ⟨e, he, -⟩
  cases he

@[simp] theorem failsOtherwise_error {α : Type} (e : Failure) :
    FailsOtherwise (.error e : Except Failure α) ↔ e.kind ≠ .value := by
  refine ⟨?_, fun h => ⟨e, rfl, h⟩⟩
  rintro ⟨e', he, h⟩
  obtain rfl := Except.error.inj he
  exact h

instance {α : Type} (result : Except Failure α) : Decidable (FailsOtherwise result) :=
  match result with
  | .ok a => isFalse (failsOtherwise_ok a)
  | .error e => decidable_of_iff _ (failsOtherwise_error e).symm

theorem failsOtherwise_map {α β : Type} {f : α → β} {result : Except Failure α} :
    FailsOtherwise (result.map f) ↔ FailsOtherwise result := by
  cases result <;> simp [Except.map]

/-! ## Milliseconds -/

/-- Milliseconds in the years 1 to 9999. -/
def InYears (millis : Int) : Prop :=
  -62135596800000 ≤ millis ∧ millis < 253402300800000

/-- The moment of milliseconds, which are divided into seconds. -/
def momentOfMillis (millis : Int) : Except Failure Int :=
  secondsOfMillis millis >>= Instant.momentOfSeconds

theorem momentOfMillis_of_some {millis : Int} {seconds : Rat}
    (h : Number.nearestDouble? ((millis : Rat) / 1000) = some seconds) :
    momentOfMillis millis = Instant.momentOfSeconds seconds := by
  rw [momentOfMillis, secondsOfMillis, h]
  rfl

/-- Milliseconds in the years of the calendar make a moment, in the second that they lie in. -/
theorem momentOfMillis_of_inYears {millis : Int} (h : InYears millis) :
    ∃ moment, momentOfMillis millis = .ok moment ∧ moment / secondMicros = millis / 1000 := by
  have hrange : millis.natAbs / 1000 < 2 ^ 38 := by
    rw [InYears] at h
    omega
  obtain ⟨seconds, hseconds⟩ := Instant.exists_nearestDouble?_millis (hrange.trans (by decide))
  have hcalendar := (Instant.inCalendar_microsOfSeconds_millis hseconds).2 h
  rw [momentOfMillis_of_some hseconds]
  exact ⟨_, Instant.momentOfSeconds_eq_ok_iff.2 ⟨hcalendar, rfl⟩,
    Instant.microsOfSeconds_millis_ediv hrange hseconds⟩

/-- Other milliseconds make none. They are refused for their value as long as the machine has a
calendar for the seconds that they are rounded to, which are multiples of eight. -/
theorem momentOfMillis_of_not_inYears {millis : Int} (h : ¬InYears millis) :
    ∃ e, momentOfMillis millis = .error e ∧
      (e.kind = .value ↔ 1000 * (Instant.firstMachineSecond - 4) ≤ millis ∧
        millis < 1000 * (Instant.endMachineSecond - 4)) := by
  cases hseconds : Number.nearestDouble? ((millis : Rat) / 1000) with
  | none =>
    refine ⟨.quotientRange, by rw [momentOfMillis, secondsOfMillis, hseconds]; rfl, ?_⟩
    refine iff_of_false (by decide) fun hmachine => ?_
    rw [Instant.firstMachineSecond_eq, Instant.endMachineSecond_eq] at hmachine
    obtain ⟨seconds, hsome⟩ :=
      Instant.exists_nearestDouble?_millis (show millis.natAbs / 1000 < 2 ^ 57 by omega)
    rw [hsome] at hseconds
    cases hseconds
  | some seconds =>
    rw [momentOfMillis_of_some hseconds]
    cases hmoment : Instant.momentOfSeconds seconds with
    | ok moment =>
      obtain ⟨hcalendar, rfl⟩ := Instant.momentOfSeconds_eq_ok_iff.1 hmoment
      exact absurd ((Instant.inCalendar_microsOfSeconds_millis hseconds).1 hcalendar) h
    | error e =>
      rw [Instant.momentOfSeconds_eq] at hmoment
      have hfirst := Instant.le_microsOfSeconds_millis_iff (n := Instant.firstMachineSecond)
        (by decide) (by decide) (by decide) hseconds
      have hend := Instant.le_microsOfSeconds_millis_iff (n := Instant.endMachineSecond)
        (by decide) (by decide) (by decide) hseconds
      refine ⟨e, rfl, ?_⟩
      rw [Instant.kind_of_momentOfParts hmoment, hfirst, ← not_le, hend, not_le]

/-- The wall time of a second in a zone lies in the calendar. -/
def IsShown (z : Zone) (second : Int) : Prop :=
  inCalendar ((second + z.offsetAt second) * secondMicros) = true

/-- The zone that a clock shows moments in. -/
def shownZone (localZone : Zone) (clock : Clock) : Zone :=
  clock.zone.getD localZone

/-- The calendar begins and ends with a second. -/
theorem inCalendar_add_iff (moment offset : Int) :
    inCalendar (moment + offset * secondMicros) = true ↔
      inCalendar ((moment / secondMicros + offset) * secondMicros) = true := by
  rw [inCalendar, inCalendar, Bool.and_eq_true, Bool.and_eq_true, decide_eq_true_eq,
    decide_eq_true_eq, decide_eq_true_eq, decide_eq_true_eq]
  simp only [firstWall, endWall, secondMicros]
  omega

/-- Whatever the instant of a moment is, its wall time must lie in the calendar. -/
theorem atMoment_eq_map (localZone : Zone) (clock : Clock) (moment : Int) :
    ∃ f : Int → Instant, atMoment localZone clock.zone moment =
      (Instant.checkedWall (moment + (shownZone localZone clock).offsetAt (moment / secondMicros) *
        secondMicros)).map f := by
  rw [shownZone]
  cases clock.zone with
  | none =>
    refine ⟨fun wall => ⟨wall, .fixed (localZone.offsetAt (moment / secondMicros)), false⟩, ?_⟩
    rw [atMoment, Instant.atMomentFixed, Option.getD_none]
    cases Instant.checkedWall _ <;> rfl
  | some z =>
    refine ⟨fun wall => ⟨wall, .zone z, decide (z.offsetAtWall (wall / secondMicros) false ≠
      z.offsetAt (moment / secondMicros))⟩, ?_⟩
    rw [atMoment, Instant.atMoment, Option.getD_some]
    cases Instant.checkedWall _ <;> rfl

/-- A moment can be shown if its wall time lies in the calendar, and fails else. -/
theorem atMoment_run (localZone : Zone) (clock : Clock) (moment : Int) :
    let shown := IsShown (shownZone localZone clock) (moment / secondMicros)
    (shown → ∃ i, atMoment localZone clock.zone moment = .ok i) ∧
      (¬shown → atMoment localZone clock.zone moment = .error .dateRange) := by
  intro shown
  obtain ⟨f, hf⟩ := atMoment_eq_map localZone clock moment
  rw [hf, Instant.checkedWall]
  refine ⟨fun h => ?_, fun h => ?_⟩
  · rw [if_pos ((inCalendar_add_iff _ _).2 h)]
    exact ⟨_, rfl⟩
  · rw [if_neg fun hin => h ((inCalendar_add_iff _ _).1 hin)]
    rfl

/-! ## Texts -/

/-- Arguments that are texts. -/
abbrev TextArguments := List (String × String)

namespace TextArguments

/-- The arguments as values of any shape. -/
def fields (args : TextArguments) : Config.Fields :=
  args.map fun entry => (entry.1, .text entry.2)

/-- The argument with a name; of two with one name the later counts. -/
def text? (args : TextArguments) (name : String) : Option String :=
  args.reverse.lookup name

theorem value?_fields (args : TextArguments) (name : String) :
    args.fields.value? name = (args.text? name).map Value.text := by
  rw [Config.Fields.value?, fields, text?, ← List.map_reverse, Tuning.lookup_map_snd]

end TextArguments

/-- So many milliseconds cannot be shown, and are not refused for their value: the machine has no
calendar for them, or their wall time is outside the calendar. -/
def MillisOverrun (z : Zone) (millis : Int) : Prop :=
  millis < 1000 * (Instant.firstMachineSecond - 4) ∨
    1000 * (Instant.endMachineSecond - 4) ≤ millis ∨
    (InYears millis ∧ ¬IsShown z (millis / 1000))

/-- The arguments ask for a time that cannot be shown, and are not refused for their value. -/
def Overruns (z : Zone) (hour24 : Bool) (base : Instant) (args : TextArguments) : Prop :=
  match args.text? "millis" with
  | some text => ∃ millis, wholeOfText text = .ok millis ∧ MillisOverrun z millis
  | none => ∃ text time, args.text? "hhmm" = some text ∧ decimalTime? text.toList = some time ∧
      ¬inCalendar (base.setTime hour24 time.1 time.2).wall = true

section Arguments

variable (localZone : Zone) (clock : Clock) (base : Instant) {args : TextArguments} {text : String}

/-- Milliseconds that are a moment are shown, or their wall time is outside the calendar. -/
theorem demoInstant_of_millis (hgiven : args.text? "millis" = some text) :
    demoInstant localZone clock base args.fields =
      wholeOfText text >>= fun millis =>
        momentOfMillis millis >>= atMoment localZone clock.zone := by
  have hvalue : args.fields.value? "millis" = some (.text text) := by
    rw [TextArguments.value?_fields, hgiven]
    rfl
  rw [demoInstant_millis hvalue]
  congr 1
  funext millis
  rw [momentOfMillis]
  cases secondsOfMillis millis <;> rfl

/-- Milliseconds fail in another way than for their value if they overrun. -/
theorem millisOverrun_iff (millis : Int) :
    FailsOtherwise (momentOfMillis millis >>= atMoment localZone clock.zone) ↔
      MillisOverrun (shownZone localZone clock) millis := by
  by_cases hyears : InYears millis
  · obtain ⟨moment, hmoment, hsecond⟩ := momentOfMillis_of_inYears hyears
    obtain ⟨hshow, hfail⟩ := atMoment_run localZone clock moment
    rw [hsecond] at hshow hfail
    have hmachine : ¬millis < 1000 * (Instant.firstMachineSecond - 4) ∧
        ¬1000 * (Instant.endMachineSecond - 4) ≤ millis := by
      rw [Instant.firstMachineSecond_eq, Instant.endMachineSecond_eq]
      rw [InYears] at hyears
      omega
    have hbind : (momentOfMillis millis >>= atMoment localZone clock.zone) =
        atMoment localZone clock.zone moment := by
      rw [hmoment]
      rfl
    rw [hbind, MillisOverrun]
    by_cases hshown : IsShown (shownZone localZone clock) (millis / 1000)
    · obtain ⟨i, hi⟩ := hshow hshown
      simp [hi, hmachine, hshown]
    · rw [hfail hshown, failsOtherwise_error]
      exact iff_of_true (by decide) (.inr (.inr ⟨hyears, hshown⟩))
  · obtain ⟨e, he, hkind⟩ := momentOfMillis_of_not_inYears hyears
    have hbind : (momentOfMillis millis >>= atMoment localZone clock.zone) = .error e := by
      rw [he]
      rfl
    rw [hbind, failsOtherwise_error, MillisOverrun, ne_eq, hkind, not_and_or, not_le, not_lt]
    simp [hyears]

/-- Without milliseconds the time of day counts. -/
theorem demoInstant_of_time (hmillis : args.text? "millis" = none)
    (hgiven : args.text? "hhmm" = some text) :
    demoInstant localZone clock base args.fields =
      demoTime? (.text text) >>= fun time => match time with
        | none => .ok base
        | some (hours, minutes) => withDemoTime clock.config.hour24 base hours minutes := by
  rw [demoInstant, TextArguments.value?_fields, TextArguments.value?_fields, hmillis, hgiven]
  rfl

/-- Without arguments the clock stays where it is. -/
theorem demoInstant_of_nothing (hmillis : args.text? "millis" = none)
    (hgiven : args.text? "hhmm" = none) :
    demoInstant localZone clock base args.fields = .ok base := by
  rw [demoInstant, TextArguments.value?_fields, TextArguments.value?_fields, hmillis, hgiven]
  rfl

/-- A time of day that is not four decimal digits is refused if it has the length of four, and else
not looked at. -/
theorem demoInstant_of_not_decimal (hmillis : args.text? "millis" = none)
    (hgiven : args.text? "hhmm" = some text) (htime : decimalTime? text.toList = none) :
    (text.length = 4 → ∃ e, demoInstant localZone clock base args.fields = .error e ∧
      e.kind = .value) ∧
    (text.length ≠ 4 → demoInstant localZone clock base args.fields = .ok base) := by
  rw [demoInstant_of_time localZone clock base hmillis hgiven, demoTime?]
  refine ⟨fun hlength => ?_, fun hlength => ?_⟩
  · obtain ⟨e, he, hkind⟩ := readDemoTime_of_not_decimal hlength htime
    rw [if_pos hlength, he]
    exact ⟨e, rfl, hkind⟩
  · rw [if_neg hlength]
    rfl

/-- A time of day of four decimal digits is set if the wall time lies in the calendar. -/
theorem demoInstant_of_decimal (hmillis : args.text? "millis" = none)
    (hgiven : args.text? "hhmm" = some text) {time : Nat × Nat}
    (htime : decimalTime? text.toList = some time) :
    demoInstant localZone clock base args.fields =
      if inCalendar (base.setTime clock.config.hour24 time.1 time.2).wall then
        .ok (base.setTime clock.config.hour24 time.1 time.2)
      else .error .dateRange := by
  obtain ⟨hlength, hread⟩ := readDemoTime_of_decimal htime
  rw [demoInstant_of_time localZone clock base hmillis hgiven, demoTime?, if_pos hlength, hread,
    ← Instant.withDemoTime_eq_ite]
  rfl

/-- A time of day fails in another way than for its value only if it is four decimal digits, and if
it then leaves the calendar. -/
theorem failsOtherwise_of_time (hmillis : args.text? "millis" = none) :
    FailsOtherwise (demoInstant localZone clock base args.fields) ↔
      ∃ text time, args.text? "hhmm" = some text ∧ decimalTime? text.toList = some time ∧
        ¬inCalendar (base.setTime clock.config.hour24 time.1 time.2).wall = true := by
  cases hgiven : args.text? "hhmm" with
  | none =>
    rw [demoInstant_of_nothing localZone clock base hmillis hgiven]
    simp
  | some text =>
    cases htime : decimalTime? text.toList with
    | none =>
      have hvalue : ¬FailsOtherwise (demoInstant localZone clock base args.fields) := by
        obtain ⟨hrefused, hignored⟩ :=
          demoInstant_of_not_decimal localZone clock base hmillis hgiven htime
        by_cases hlength : text.length = 4
        · obtain ⟨e, he, hkind⟩ := hrefused hlength
          simp [he, hkind]
        · simp [hignored hlength]
      simp [hvalue, htime]
    | some time =>
      rw [demoInstant_of_decimal localZone clock base hmillis hgiven htime]
      by_cases hcalendar : inCalendar (base.setTime clock.config.hour24 time.1 time.2).wall = true
      · rw [if_pos hcalendar]
        refine iff_of_false (failsOtherwise_ok _) ?_
        rintro ⟨_, _, htext, htime', hout⟩
        obtain rfl := Option.some.inj htext
        obtain rfl := Option.some.inj (htime.symm.trans htime')
        exact hout hcalendar
      · rw [if_neg hcalendar, failsOtherwise_error]
        exact iff_of_true (by decide) ⟨text, time, rfl, htime, hcalendar⟩

/-- A demo time fails in another way than for a value exactly if its arguments overrun. -/
theorem failsOtherwise_demoInstant :
    FailsOtherwise (demoInstant localZone clock base args.fields) ↔
      Overruns (shownZone localZone clock) clock.config.hour24 base args := by
  rw [Overruns]
  cases hmillis : args.text? "millis" with
  | none => exact failsOtherwise_of_time localZone clock base hmillis
  | some text =>
    dsimp only
    rw [demoInstant_of_millis localZone clock base hmillis]
    cases hread : wholeOfText text with
    | error e =>
      have hkind := Tuning.kind_of_wholeOfText hread
      simp [Except.bind, bind, hkind]
    | ok millis =>
      refine (millisOverrun_iff localZone clock millis).trans ?_
      simp

end Arguments

/-- The failures that a demo time can end in.

A clock shows an instant in the demo mode and is told a demo time, with arguments that are texts.
Then it fails in another way than for the value of an argument exactly if the arguments overrun.
Without milliseconds, a time of day that is not four decimal digits is refused for its value exactly
if it has the length of four; else the clock follows, and shows the instant that it has shown
before. -/
theorem demoArguments_failures (around : Surroundings) {s : Session Clock} {i : Instant}
    (hstate : s.state.demoState = (true, some i)) (args : TextArguments) :
    let result := outcome (perform around (.demo "clock" args.fields)) s
    let t := after (perform around (.demo "clock" args.fields)) s
    (FailsOtherwise result ↔
      Overruns (shownZone around.localZone s.state) s.state.config.hour24 i args) ∧
    ∀ text, args.text? "millis" = none → args.text? "hhmm" = some text →
      decimalTime? text.toList = none →
      ((∃ e, result = .error e ∧ e.kind = .value) ↔ text.length = 4) ∧
      (text.length ≠ 4 → result = .ok none ∧ t.state.demoState = (true, some i)) := by
  intro result t
  obtain ⟨hdemo, hpinned⟩ := Prod.mk.inj hstate
  obtain ⟨hresult, hafter, -⟩ := perform_clock hdemo hpinned args.fields
  refine ⟨?_, fun text hmillis hgiven htime => ?_⟩
  · rw [show result = _ from hresult, failsOtherwise_map, failsOtherwise_demoInstant]
  · obtain ⟨hrefused, hignored⟩ :=
      demoInstant_of_not_decimal around.localZone s.state i hmillis hgiven htime
    rw [show t.state.demoState = _ from hafter, show result = _ from hresult]
    by_cases hlength : text.length = 4
    · obtain ⟨e, he, hkind⟩ := hrefused hlength
      rw [he]
      exact ⟨iff_of_true ⟨e, rfl, hkind⟩ hlength, fun hne => absurd hlength hne⟩
    · rw [hignored hlength]
      refine ⟨iff_of_false ?_ hlength, fun _ => ⟨rfl, rfl⟩⟩
      rintro ⟨e, he, -⟩
      cases he

/-- A demo time of three digits is not looked at. -/
theorem demoArguments_failures_three_digits :
    let utc : Zone := .utc
    let around : Surroundings :=
      ⟨DateText.write, .ofSkeletons .localeData, Zone.table, utc,
        fun _ => .ok ⟨1704899045000000, .zone utc, false⟩⟩
    let clock : Clock := ⟨{ timezone := some "UTC" }, some utc, false, none, Selector.fresh⟩
    let s := after (perform around (.demo "enter" [])) ⟨clock, []⟩
    let args : TextArguments := [("hhmm", "930")]
    let i : Instant := ⟨1704899045000000, .zone utc, false⟩
    ofConfig around.zones { timezone := some "UTC" } = .ok clock ∧
      s.state.demoState = (true, some i) ∧
      args.text? "millis" = none ∧ args.text? "hhmm" = some "930" ∧
      decimalTime? "930".toList = none ∧
      outcome (perform around (.demo "clock" args.fields)) s = .ok none ∧
      (after (perform around (.demo "clock" args.fields)) s).state.demoState = (true, some i) := by
  intro utc around clock s args i
  have hstate : s.state.demoState = (true, some i) := by decide
  have hignored := (demoArguments_failures around hstate args).2 "930" rfl rfl rfl
  exact ⟨rfl, hstate, rfl, rfl, rfl, hignored.2 (by decide)⟩

/-- Milliseconds beyond the machine's clock do not fail for their value, and a demo time of three
digits does not fail. -/
theorem demoArguments_not_refused :
    let utc : Zone := .utc
    let around : Surroundings :=
      ⟨DateText.write, .ofSkeletons .localeData, Zone.table, utc,
        fun _ => .ok ⟨1704899045000000, .zone utc, false⟩⟩
    let clock : Clock := ⟨{ timezone := some "UTC" }, some utc, false, none, Selector.fresh⟩
    let s := after (perform around (.demo "enter" [])) ⟨clock, []⟩
    let millis : TextArguments := [("millis", "100000000000000000000000")]
    let time : TextArguments := [("hhmm", "930")]
    ofConfig Zone.table { timezone := some "UTC" } = .ok clock ∧ s.state.demo = true ∧
      FailsOtherwise (outcome (perform around (.demo "clock" millis.fields)) s) ∧
      outcome (perform around (.demo "clock" time.fields)) s = .ok none := by
  intro utc around clock s millis time
  have hfails : FailsOtherwise (outcome (perform around (.demo "clock" millis.fields)) s) := by
    decide +kernel
  exact ⟨rfl, rfl, hfails, rfl⟩

end Clock

end ClockFace
