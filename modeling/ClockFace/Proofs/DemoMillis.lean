import ClockFace.Proofs.DemoMode
import ClockFace.Proofs.EpochMillis
import ClockFace.Proofs.NumeralText
import ClockFace.Proofs.SameMoment

/-! # Demo times in milliseconds

A demo time in milliseconds is divided into seconds of double precision, and the instant of those is
pinned. It is the moment of the milliseconds, to the microsecond, as long as the division is less
than half a microsecond off (`Instant.MillisAreExact`): so it is up to the year 2242, and before
1697 and after 2242 for whole seconds, but not for every other number.

## Key results

- `demoInstant_millis_eq_ok`: the instant of milliseconds, where there is one
- `moment_of_demoInstant`: the moment of that instant
- `demoMillis_exact_iff`: when a clock pins the moment of the milliseconds
-/

namespace ClockFace

namespace Clock

open Attempt

section Instants

variable {localZone z : Zone} {clock : Clock} {base i : Instant} {args : Config.Fields}
  {text : String} {millis : Int}

theorem of_secondsOfMillis_eq_ok {seconds : Rat} (h : secondsOfMillis millis = .ok seconds) :
    Number.nearestDouble? ((millis : Rat) / 1000) = some seconds := by
  rw [secondsOfMillis] at h
  split at h
  · next s hs =>
    rw [hs, Except.ok.inj h]
  · cases h

/-- Milliseconds that are given are all that counts. -/
theorem demoInstant_millis (hgiven : args.value? "millis" = some (.text text)) :
    demoInstant localZone clock base args =
      wholeOfText text >>= fun millis => secondsOfMillis millis >>= fun seconds =>
        place localZone clock.zone (.seconds seconds) := by
  rw [demoInstant, hgiven]
  rfl

/-- The instant of milliseconds is that of the seconds they are divided into. -/
theorem demoInstant_millis_eq_ok (hgiven : args.value? "millis" = some (.text text))
    (hread : wholeOfText text = .ok millis) (hzone : clock.zone = some z)
    (h : demoInstant localZone clock base args = .ok i) :
    ∃ seconds, Number.nearestDouble? ((millis : Rat) / 1000) = some seconds ∧
      inCalendar (Instant.microsOfSeconds seconds) = true ∧
      Instant.atMoment z (Instant.microsOfSeconds seconds) = .ok i := by
  rw [demoInstant_millis hgiven, hread, hzone] at h
  obtain ⟨n, hn, hdivided⟩ := of_bind_eq_ok h
  obtain rfl := Except.ok.inj hn
  obtain ⟨seconds, hseconds, hplace⟩ := of_bind_eq_ok hdivided
  obtain ⟨moment, hmoment, hi⟩ := of_bind_eq_ok hplace
  obtain ⟨hcalendar, rfl⟩ := Instant.momentOfSeconds_eq_ok_iff.1 hmoment
  exact ⟨seconds, of_secondsOfMillis_eq_ok hseconds, hcalendar, hi⟩

/-- The moment of the instant is that of the milliseconds where the division is precise enough. Its
second is the right one in any case, and its microseconds are a few off at most. -/
theorem moment_of_demoInstant (hz : z.IsReadable)
    (hgiven : args.value? "millis" = some (.text text))
    (hread : wholeOfText text = .ok millis) (hzone : clock.zone = some z)
    (h : demoInstant localZone clock base args = .ok i) :
    (i.moment = millis * 1000 ↔ Instant.MillisAreExact millis) ∧
      i.moment / secondMicros = millis / 1000 ∧ |i.moment - millis * 1000| ≤ 15 := by
  obtain ⟨seconds, hseconds, hcalendar, hi⟩ := demoInstant_millis_eq_ok hgiven hread hzone h
  have hrange : millis.natAbs / 1000 < 2 ^ 38 := by
    have hyears := (Instant.inCalendar_microsOfSeconds_millis hseconds).1 hcalendar
    omega
  rw [Instant.moment_of_atMoment hz hi]
  exact ⟨Instant.microsOfSeconds_millis_eq_iff hrange hseconds,
    Instant.microsOfSeconds_millis_ediv hrange hseconds,
    Instant.abs_microsOfSeconds_millis_sub_le hrange hseconds⟩

/-- The decimal text of a number that makes an instant is read as the number. -/
theorem wholeOfText_of_demoInstant
    (hgiven : args.value? "millis" = some (.text (toString millis)))
    (h : demoInstant localZone clock base args = .ok i) :
    wholeOfText (toString millis) = .ok millis := by
  rw [demoInstant_millis hgiven] at h
  obtain ⟨n, hread, -⟩ := of_bind_eq_ok h
  rw [wholeOfText_toString] at hread ⊢
  split at hread
  · cases hread
  · next hlimit => rw [if_neg hlimit]

end Instants

/-- The moment that a demo time in milliseconds pins.

A clock in the demo mode whose configuration names a zone is told a demo time as the decimal text of
a whole number, and follows. Then the instant that it pins is at just this number of milliseconds,
to the microsecond, exactly if the division into seconds is less than half a microsecond off. So it
is for whole seconds and for less than `2 ^ 33` seconds before or after the start of 1970. The
instant is always in the second that it should be in, and fifteen microseconds off at most. -/
theorem demoMillis_exact_iff (around : Surroundings) (hzones : around.zones.IsReadable)
    (requests : List Selector.Request) {config : Config} {clock : Clock}
    (h : withSelector around.zones (Selector.history around.formats requests).state config =
      .ok clock)
    (calls : List Call)
    (hnamed : ZoneName.isGiven (history around clock calls).state.config.timezone = true)
    (hdemo : (history around clock calls).state.demo = true)
    {args : Config.Fields} {millis : Int}
    (hgiven : args.value? "millis" = some (.text (toString millis)))
    (hdone : outcome (perform around (.demo "clock" args)) (history around clock calls) =
      .ok none) :
    let s := history around clock calls
    ∃ i, (after (perform around (.demo "clock" args)) s).state.demoState = (true, some i) ∧
      (i.moment = millis * 1000 ↔ Instant.MillisAreExact millis) ∧
      (millis % 1000 = 0 ∨ millis.natAbs / 1000 < 2 ^ 33 → i.moment = millis * 1000) ∧
      i.moment / secondMicros = millis / 1000 ∧ |i.moment - millis * 1000| ≤ 15 := by
  intro s
  have hsound : Sound around.zones around.formats s.state :=
    sound_history_of_withSelector h calls
  obtain ⟨name, z, -, hfind, hzone⟩ := ZoneName.exists_of_resolve hsound.zone hnamed
  have hz : z.IsReadable := hzones name z (ZoneName.eq_some_of_find hfind)
  obtain ⟨houtcome, hafter⟩ := perform_demo_eq around s "clock" args
  obtain ⟨hrun, hstate⟩ := demoCommand_clock_run around hdemo args
  rw [houtcome, hrun] at hdone
  obtain ⟨_, hdemoed, _⟩ := of_map_eq_ok hdone
  obtain ⟨i, hi, _⟩ := of_map_eq_ok hdemoed
  obtain ⟨base, -, hbase⟩ := of_bind_eq_ok hi
  have hread := wholeOfText_of_demoInstant hgiven hbase
  obtain ⟨hexact, hsecond, hclose⟩ := moment_of_demoInstant hz hgiven hread hzone hbase
  refine ⟨i, ?_, hexact, fun hsmall => hexact.2 ?_, hsecond, hclose⟩
  · rw [hafter, hstate, hi, hdemo]
    rfl
  · obtain hwhole | hnear := hsmall
    · exact Instant.millisAreExact_of_emod hwhole
    · exact Instant.millisAreExact_of_lt hnear

/-- A millisecond before the start of 1970, on a demo clock in New York. -/
theorem demoMillis_exact_iff_newYork :
    let around : Surroundings :=
      ⟨DateText.write, .ofSkeletons .localeData, Zone.table, .utc,
        fun _ => .ok ⟨1704899045000000, .zone .newYork, false⟩⟩
    let config : Config := { timezone := some "America/New_York" }
    let clock : Clock := ⟨config, some .newYork, false, none, Selector.fresh⟩
    let calls : List Call := [⟨around.localZone, around.now, .demo "enter" []⟩]
    let args : Config.Fields := [("millis", .text "-1")]
    let s := history around clock calls
    around.zones.IsReadable ∧
      withSelector around.zones (Selector.history around.formats []).state config = .ok clock ∧
      ZoneName.isGiven s.state.config.timezone = true ∧ s.state.demo = true ∧
      args.value? "millis" = some (.text (toString (-1 : Int))) ∧
      outcome (perform around (.demo "clock" args)) s = .ok none ∧
      ∃ i, (after (perform around (.demo "clock" args)) s).state.demoState = (true, some i) ∧
        i.moment = -1000 := by
  intro around config clock calls args s
  have hresolve : ZoneName.resolve around.zones config.timezone = .ok clock.zone :=
    eq_ok_of_toOption (by decide +kernel)
  have hclock : withSelector around.zones (Selector.history around.formats []).state config =
      .ok clock := withSelector_of_resolve hresolve _
  have hdone : outcome (perform around (.demo "clock" args)) s = .ok none :=
    eq_ok_of_toOption (by decide +kernel)
  have hgiven : args.value? "millis" = some (.text (toString (-1 : Int))) := rfl
  obtain ⟨i, hi, -, hmoment, -⟩ :=
    demoMillis_exact_iff around Zone.isReadable_table [] hclock calls rfl rfl hgiven hdone
  exact ⟨Zone.isReadable_table, hclock, rfl, rfl, hgiven, hdone, i, hi,
    hmoment (.inr (by decide))⟩

/-- Some time in the year 2242, a demo time of one millisecond past a second falls a microsecond
short. -/
theorem demoMillis_not_exact :
    let utc : Zone := .utc
    let around : Surroundings :=
      ⟨DateText.write, .ofSkeletons .localeData, Zone.table, utc,
        fun _ => .ok ⟨1704899045000000, .zone utc, false⟩⟩
    let config : Config := { timezone := some "UTC" }
    let clock : Clock := ⟨config, some utc, false, none, Selector.fresh⟩
    let s := history around clock [⟨around.localZone, around.now, .demo "enter" []⟩]
    let set := perform around (.demo "clock" [("millis", .text (toString (8589934592001 : Int)))])
    ofConfig around.zones config = .ok clock ∧ s.state.demo = true ∧ outcome set s = .ok none ∧
      ∃ i, (after set s).state.demoState = (true, some i) ∧
        i.moment = 8589934592000999 ∧ i.moment ≠ 8589934592001 * 1000 := by
  intro utc around config clock s set
  have hdone : outcome set s = .ok none := eq_ok_of_toOption (by decide +kernel)
  have hpinned : (after set s).state.demoState =
      (true, some ⟨8589934592000999, .zone utc, false⟩) := by decide +kernel
  exact ⟨rfl, rfl, hdone, _, hpinned, by decide +kernel, by decide +kernel⟩

end Clock

end ClockFace
