import ClockFace.Proofs.DemoZone
import ClockFace.Proofs.ZoneOffsets

/-! # One moment, written in two ways

An instant that a clock is asked to show is brought to the zone of the clock, and what is shown
then depends on the moment alone. But an instant that is in the zone already stays as it is
written. This makes no difference as long as the zone really shows what is written: not where the
clock of the zone skips the wall time, and not where the moment lies outside the calendar
(`Instant.IsShownIn`).

## Key results

- `Instant.reading_ofMoment_iff`: when the zone shows what is written
- `Instant.reading_inZone_iff`: when two instants of a moment become the same in a zone
- `FormatSource.face_congr_of_reading`: a face shows an instant as far as it can be read
- `Clock.render_sameMoment`: when a clock shows two instants of a moment alike
-/

namespace ClockFace

namespace Instant

/-- What can be read off an instant. The fold only counts for the offset. -/
def reading (i : Instant) : Frame × Int × Option Int :=
  (i.frame, i.wall, i.offset?)

/-- The instant tells a moment, and its wall time lies in the calendar. -/
structure IsAware (i : Instant) : Prop where
  frame : i.frame ≠ .floating
  wall : inCalendar i.wall = true

/-- If the instant is written in the zone, it is one that the zone has: the clock does not skip it,
and its moment lies in the calendar. -/
def IsShownIn (i : Instant) (z : Zone) : Prop :=
  i.frame = .zone z → inCalendar i.moment = true ∧ ¬ z.Skips i.wallSeconds

/-- The instant of a moment in a zone. -/
def ofMoment (z : Zone) (moment : Int) : Except Failure Instant :=
  checkedWall moment >>= atMoment z

section Zones

variable {z : Zone} {i : Instant}

theorem inZone_of_frame (h : i.frame = .zone z) : i.inZone z = .ok i :=
  if_pos h

theorem inZone_of_frame_ne (h : i.frame ≠ .zone z) : i.inZone z = ofMoment z i.moment :=
  if_neg h

theorem checkedWall_of_inCalendar {wall : Int} (h : inCalendar wall = true) :
    checkedWall wall = .ok wall :=
  if_pos h

theorem of_checkedWall_eq_ok {wall checked : Int} (h : checkedWall wall = .ok checked) :
    inCalendar wall = true ∧ wall = checked := by
  rw [checkedWall] at h
  split at h
  · next hcalendar => exact ⟨hcalendar, Except.ok.inj h⟩
  · cases h

theorem offset?_of_frame (h : i.frame = .zone z) :
    i.offset? = some (z.offsetAtWall i.wallSeconds i.fold) := by
  rw [offset?, h]

theorem moment_of_frame (h : i.frame = .zone z) :
    i.moment = i.wall - z.offsetAtWall i.wallSeconds i.fold * secondMicros := by
  rw [moment, offset?_of_frame h]
  rfl

/-- The second reading of a wall time is meant exactly where the first one has another offset. -/
theorem offsetAtWall_fold (z : Zone) (wall : Int) (fold : Bool) :
    z.offsetAtWall wall
        (decide (z.offsetAtWall wall false ≠ z.offsetAtWall wall fold)) =
      z.offsetAtWall wall fold := by
  by_cases h : z.offsetAtWall wall false = z.offsetAtWall wall fold
  · simp [h]
  · cases fold with
    | false => exact absurd rfl h
    | true => simp [h]

/-- The wall time at a moment is the moment with the offset that is then in force. -/
theorem wall_of_atMoment {moment : Int} (h : atMoment z moment = .ok i) :
    i.wall = moment + z.offsetAt (moment / secondMicros) * secondMicros := by
  obtain ⟨wall, hwall, hi⟩ := of_bind_eq_ok h
  obtain rfl := Except.ok.inj hi
  exact (of_checkedWall_eq_ok hwall).2.symm

/-- The instant of a moment denotes that moment, also where its wall time is shown twice. -/
theorem moment_of_atMoment (hz : z.IsReadable) {moment : Int}
    (h : atMoment z moment = .ok i) : i.moment = moment := by
  obtain ⟨wall, hwall, hi⟩ := of_bind_eq_ok h
  obtain ⟨-, rfl⟩ := of_checkedWall_eq_ok hwall
  obtain rfl := Except.ok.inj hi
  obtain ⟨fold, hfold⟩ := hz.exists_fold
    (show z.Shows (moment / secondMicros + z.offsetAt (moment / secondMicros)) _ from rfl)
  have hseconds : (moment + z.offsetAt (moment / secondMicros) * secondMicros) / secondMicros =
      moment / secondMicros + z.offsetAt (moment / secondMicros) :=
    Int.add_mul_ediv_right _ _ (by decide)
  have hread :=
    offsetAtWall_fold z (moment / secondMicros + z.offsetAt (moment / secondMicros)) fold
  rw [hfold] at hread
  rw [moment_of_frame rfl, wallSeconds]
  dsimp only
  rw [hseconds, hread, Int.add_sub_cancel]

/-- An instant whose offset is in force at its moment is found again at that moment. -/
theorem reading_atMoment (h : i.frame = .zone z) (hwall : inCalendar i.wall = true)
    (hoffset : z.offsetAt (i.moment / secondMicros) = z.offsetAtWall i.wallSeconds i.fold) :
    (atMoment z i.moment).map reading = .ok i.reading := by
  have hback : i.moment + z.offsetAtWall i.wallSeconds i.fold * secondMicros = i.wall := by
    rw [moment_of_frame h, Int.sub_add_cancel]
  have hatMoment : atMoment z i.moment = .ok ⟨i.wall, .zone z, decide
      (z.offsetAtWall i.wallSeconds false ≠ z.offsetAtWall i.wallSeconds i.fold)⟩ := by
    rw [atMoment]
    dsimp only
    rw [hoffset, hback, checkedWall_of_inCalendar hwall]
    rfl
  have hreading : i.reading = (.zone z, i.wall, some (z.offsetAtWall i.wallSeconds
      (decide (z.offsetAtWall i.wallSeconds false ≠ z.offsetAtWall i.wallSeconds i.fold)))) := by
    rw [reading, h, offset?_of_frame h, offsetAtWall_fold]
  rw [hatMoment, hreading]
  rfl

/-- The zone gives an instant back from its moment exactly if it really shows it. -/
theorem reading_ofMoment_iff (hz : z.IsReadable) (h : i.frame = .zone z)
    (hwall : inCalendar i.wall = true) :
    (ofMoment z i.moment).map reading = .ok i.reading ↔
      inCalendar i.moment = true ∧ ¬ z.Skips i.wallSeconds := by
  have hmoment := moment_of_frame h
  have hseconds : i.moment / secondMicros =
      i.wallSeconds - z.offsetAtWall i.wallSeconds i.fold := by
    rw [hmoment, wallSeconds]
    simp only [secondMicros]
    omega
  rw [← hz.offsetAt_sub_eq_iff i.wallSeconds i.fold, ← hseconds]
  constructor
  · intro hreading
    obtain ⟨j, hj, hij⟩ := of_map_eq_ok hreading
    obtain ⟨m, hm, hatMoment⟩ := of_bind_eq_ok hj
    obtain ⟨hcalendar, rfl⟩ := of_checkedWall_eq_ok hm
    refine ⟨hcalendar, ?_⟩
    -- The walls are equal, and so are the offsets that lead to them
    have hjwall := wall_of_atMoment hatMoment
    have hwalls : j.wall = i.wall := congrArg (·.2.1) hij
    rw [hwalls] at hjwall
    simp only [secondMicros] at *
    omega
  · rintro ⟨hcalendar, hoffset⟩
    rw [ofMoment, checkedWall_of_inCalendar hcalendar]
    exact reading_atMoment h hwall hoffset

/-- Instants of a moment that are written alike in a zone have the same offset. -/
theorem reading_eq_of_wall {j : Instant} (hi : i.frame = .zone z) (hj : j.frame = .zone z)
    (hwall : i.wall = j.wall) (hmoment : i.moment = j.moment) : i.reading = j.reading := by
  have hoffset : z.offsetAtWall i.wallSeconds i.fold = z.offsetAtWall j.wallSeconds j.fold := by
    rw [moment_of_frame hi, moment_of_frame hj, hwall] at hmoment
    simp only [secondMicros] at hmoment
    omega
  rw [reading, reading, offset?_of_frame hi, offset?_of_frame hj, hi, hj, hwall, hoffset]

/-- An instant that the zone shows is the one that its moment has there. -/
theorem reading_inZone (hz : z.IsReadable) (hwall : inCalendar i.wall = true)
    (h : i.IsShownIn z) : (i.inZone z).map reading = (ofMoment z i.moment).map reading := by
  by_cases hframe : i.frame = .zone z
  · rw [inZone_of_frame hframe, (reading_ofMoment_iff hz hframe hwall).2 (h hframe)]
    rfl
  · rw [inZone_of_frame_ne hframe]

/-- Two instants of a moment become the same in a zone exactly if they are written alike in one
frame or the zone shows both. -/
theorem reading_inZone_iff (hz : z.IsReadable) {a b : Instant}
    (ha : inCalendar a.wall = true) (hb : inCalendar b.wall = true)
    (hmoment : a.moment = b.moment) :
    (a.inZone z).map reading = (b.inZone z).map reading ↔
      (a.frame = b.frame ∧ a.wall = b.wall) ∨ (a.IsShownIn z ∧ b.IsShownIn z) := by
  constructor
  · intro heq
    by_cases haz : a.frame = .zone z <;> by_cases hbz : b.frame = .zone z
    · rw [inZone_of_frame haz, inZone_of_frame hbz] at heq
      have hreading : a.reading = b.reading := Except.ok.inj heq
      exact .inl ⟨congrArg (·.1) hreading, congrArg (·.2.1) hreading⟩
    · rw [inZone_of_frame haz, inZone_of_frame_ne hbz, ← hmoment] at heq
      exact .inr ⟨fun _ => (reading_ofMoment_iff hz haz ha).1 heq.symm,
        fun hframe => absurd hframe hbz⟩
    · rw [inZone_of_frame_ne haz, inZone_of_frame hbz, hmoment] at heq
      exact .inr ⟨fun hframe => absurd hframe haz,
        fun _ => (reading_ofMoment_iff hz hbz hb).1 heq⟩
    · exact .inr ⟨fun hframe => absurd hframe haz, fun hframe => absurd hframe hbz⟩
  · rintro (⟨hframe, hwall⟩ | ⟨hashown, hbshown⟩)
    · by_cases haz : a.frame = .zone z
      · have hbz : b.frame = .zone z := hframe.symm.trans haz
        rw [inZone_of_frame haz, inZone_of_frame hbz]
        exact congrArg Except.ok (reading_eq_of_wall haz hbz hwall hmoment)
      · have hbz : b.frame ≠ .zone z := fun hb => haz (hframe.trans hb)
        rw [inZone_of_frame_ne haz, inZone_of_frame_ne hbz, hmoment]
    · rw [reading_inZone hz ha hashown, reading_inZone hz hb hbshown, hmoment]

end Zones

end Instant

/-! ## Faces -/

section Faces

variable {i j : Instant} (h : i.reading = j.reading)
include h

theorem Field.write_congr (letter : Char) (length : Nat) (locale : Locale) :
    write letter length locale i = write letter length locale j := by
  have hwall : i.wall = j.wall := congrArg (·.2.1) h
  have hoffset : i.offset? = j.offset? := congrArg (·.2.2) h
  simp only [write, ofTime, Instant.date, Instant.hour, Instant.minute, Instant.second,
    Instant.secondOfDay, Instant.wallSeconds, Instant.micros, hwall, hoffset]
  rfl

theorem Pattern.writeTokens_congr (locale : Locale) (tokens : List Token) :
    writeTokens locale i tokens = writeTokens locale j tokens := by
  induction tokens with
  | nil => rfl
  | cons t rest ih =>
    have htoken : t.write locale i = t.write locale j := by
      cases t with
      | text c => rfl
      | field letter length => exact Field.write_congr h letter length locale
    rw [writeTokens, writeTokens, htoken, ih]

theorem Pattern.writeText_congr (pattern : List Char) (locale : Locale) :
    writeText pattern locale i = writeText pattern locale j := by
  simp only [writeText, write, writeTokens_congr h]

end Faces

/-- A date writer that takes from an instant what can be read off it. -/
def DateWriter.IgnoresFold (dates : DateWriter) : Prop :=
  ∀ i j : Instant, i.reading = j.reading → dates i = dates j

/-- The locale's own dates are written from what can be read off an instant. -/
theorem DateText.ignoresFold_write : DateWriter.IgnoresFold write := by
  intro i j h
  funext pattern tag
  simp only [write, NamedFormat.write, Pattern.writeText_congr h]

/-- A face shows an instant as far as it can be read. -/
theorem FormatSource.face_congr_of_reading {dates : DateWriter} (hdates : dates.IgnoresFold)
    {i j : Instant} (h : i.reading = j.reading) (source : FormatSource) (c : Config) :
    source.face dates c i = source.face dates c j := by
  simp only [face, Face.ofInstant, TimeFormat.write, Pattern.write, Pattern.writeTokens_congr h,
    Layout.writeDate, hdates i j h]

/-! ## Clocks -/

/-- A computation goes on alike from two results that agree in what it looks at. -/
theorem bind_eq_of_map_eq {α β γ : Type} {x y : Except Failure α} {f : α → β}
    {g : α → Except Failure γ} (h : x.map f = y.map f)
    (hg : ∀ a b, f a = f b → g a = g b) : x >>= g = y >>= g := by
  cases x with
  | error e =>
    obtain rfl := (of_map_eq_error h.symm)
    rfl
  | ok a =>
    obtain ⟨b, rfl, hb⟩ := of_map_eq_ok h.symm
    exact hg a b hb.symm

/-- The zone that a name stands for is one of the table. -/
theorem ZoneName.eq_some_of_find {zones : ZoneTable} {name : String} {z : Zone}
    (h : find zones name = .ok z) : zones name = some z := by
  simp only [find] at h
  split_ifs at h
  split at h
  · next hfound =>
    rw [hfound, Except.ok.inj h]
  · cases h

namespace Clock

open Attempt

/-- An instant that is aware is brought to the zone of the clock. -/
theorem place_instant {i : Instant} (h : i.IsAware) (localZone z : Zone) :
    place localZone (some z) (.instant i) = i.inZone z := by
  cases hframe : i.frame with
  | floating => exact absurd hframe h.frame
  | fixed offset => simp only [place, hframe]
  | zone other => simp only [place, hframe]

/-- When a clock shows two instants of one moment alike.

In the zone that the clock is configured for, the two become the same exactly if they are written
alike in one frame, or if each of them, as far as it is written in that very zone, has a wall
time that the zone's clock does not skip and a moment within the calendar. Then rendering them
gives the same face or fails for the same reason, whatever the clock was told before. Nothing is
asked of the zones but that their clocks can be read. -/
theorem render_sameMoment (around : Surroundings) (hzones : around.zones.IsReadable)
    (hdates : around.dates.IgnoresFold) (requests : List Selector.Request) {config : Config}
    {clock : Clock}
    (h : withSelector around.zones (Selector.history around.formats requests).state config =
      .ok clock)
    (calls : List Call)
    (hnamed : ZoneName.isGiven (history around clock calls).state.config.timezone = true)
    {a b : Instant} (ha : a.IsAware) (hb : b.IsAware) (hmoment : a.moment = b.moment) :
    let s := history around clock calls
    ∃ name z, s.state.config.timezone = some name ∧ ZoneName.find around.zones name = .ok z ∧
      let shownAlike := (a.frame = b.frame ∧ a.wall = b.wall) ∨ (a.IsShownIn z ∧ b.IsShownIn z)
      ((place around.localZone s.state.zone (.instant a)).map Instant.reading =
          (place around.localZone s.state.zone (.instant b)).map Instant.reading ↔ shownAlike) ∧
      (shownAlike →
        outcome (render around (some (.instant a))) s =
          outcome (render around (some (.instant b))) s) := by
  intro s
  have hsound : Sound around.zones around.formats s.state :=
    sound_history_of_withSelector h calls
  obtain ⟨name, z, hname, hfind, hzone⟩ := ZoneName.exists_of_resolve hsound.zone hnamed
  have hz : z.IsReadable := hzones name z (ZoneName.eq_some_of_find hfind)
  have hreadings := Instant.reading_inZone_iff hz ha.wall hb.wall hmoment
  refine ⟨name, z, hname, hfind, ?_⟩
  intro shownAlike
  rw [outcome_render hsound, outcome_render hsound, hzone, place_instant ha, place_instant hb]
  refine ⟨hreadings, fun halike => ?_⟩
  exact bind_eq_of_map_eq (hreadings.2 halike) fun i j hij =>
    around.formats.face_congr_of_reading hdates hij s.state.config

/-- A wall time that Berlin shows twice is meant the second time, and is shown as the moment in New
York that it is. -/
theorem render_sameMoment_repeated :
    let skeletons : SkeletonSource :=
      .table [] (some ⟨"HH:mm:ss", "h:mm:ss a", "HH:mm", "h:mm a"⟩)
    let around : Surroundings :=
      ⟨DateText.write, .ofSkeletons skeletons, Zone.table, .utc, fun _ => .ok .afternoon⟩
    let config : Config := { emphasis := .normal, timezone := some "Europe/Berlin" }
    let clock : Clock := ⟨config, some .berlin, false, none, Selector.fresh⟩
    let a : Instant := ⟨1729996200000000, .zone .berlin, true⟩
    let b : Instant := ⟨1729978200000000, .zone .newYork, false⟩
    around.zones.IsReadable ∧ around.dates.IgnoresFold ∧
      withSelector around.zones (Selector.history around.formats []).state config = .ok clock ∧
      ZoneName.isGiven (history around clock []).state.config.timezone = true ∧
      a.IsAware ∧ b.IsAware ∧ a.moment = b.moment ∧ a.IsShownIn .berlin ∧ b.IsShownIn .berlin ∧
      outcome (render around (some (.instant b))) (history around clock []) =
        .ok ⟨"2:30 AM".toList, [], "2:30 AM".toList⟩ ∧
      outcome (render around (some (.instant a))) (history around clock []) =
        outcome (render around (some (.instant b))) (history around clock []) := by
  intro skeletons around config clock a b
  have hresolve : ZoneName.resolve around.zones config.timezone = .ok clock.zone :=
    eq_ok_of_toOption (by decide +kernel)
  have hclock : withSelector around.zones (Selector.history around.formats []).state config =
      .ok clock := withSelector_of_resolve hresolve _
  have hnamed : ZoneName.isGiven (history around clock []).state.config.timezone = true := rfl
  have ha : a.IsAware := ⟨by decide, by decide⟩
  have hb : b.IsAware := ⟨by decide, by decide⟩
  have hmoment : a.moment = b.moment := by decide +kernel
  have hashown : a.IsShownIn .berlin := fun _ =>
    ⟨by decide +kernel, fun hskips => hskips 1729992600 (by decide +kernel)⟩
  have hbshown : b.IsShownIn .berlin := fun hframe => absurd hframe (by decide)
  obtain ⟨name, z, hname, hfind, -, halike⟩ :=
    render_sameMoment around Zone.isReadable_table DateText.ignoresFold_write [] hclock [] hnamed ha
      hb hmoment
  have hberlin : ZoneName.find around.zones "Europe/Berlin" = .ok .berlin :=
    eq_ok_of_toOption (by decide +kernel)
  obtain rfl : "Europe/Berlin" = name := Option.some.inj hname
  rw [hberlin] at hfind
  obtain rfl := Except.ok.inj hfind
  exact ⟨Zone.isReadable_table, DateText.ignoresFold_write, hclock, hnamed, ha, hb, hmoment,
    hashown, hbshown, eq_ok_of_toOption (by decide +kernel), halike (.inr ⟨hashown, hbshown⟩)⟩

/-- The clock of Berlin goes from two to three o'clock. Half past two is shown as it is written, and
its moment, written in universal time, as half past three. -/
theorem render_sameMoment_skipped :
    let skeletons : SkeletonSource :=
      .table [] (some ⟨"HH:mm:ss", "h:mm:ss a", "HH:mm", "h:mm a"⟩)
    let around : Surroundings :=
      ⟨DateText.write, .ofSkeletons skeletons, Zone.table, .utc, fun _ => .ok .afternoon⟩
    let config : Config := { emphasis := .normal, timezone := some "Europe/Berlin" }
    let clock : Clock := ⟨config, some .berlin, false, none, Selector.fresh⟩
    let a : Instant := ⟨1711852200000000, .zone .berlin, false⟩
    let b : Instant := ⟨1711848600000000, .fixed 0, false⟩
    around.zones.IsReadable ∧ around.dates.IgnoresFold ∧
      withSelector around.zones (Selector.history around.formats []).state config = .ok clock ∧
      ZoneName.isGiven (history around clock []).state.config.timezone = true ∧
      a.IsAware ∧ b.IsAware ∧ a.moment = b.moment ∧
      outcome (render around (some (.instant a))) (history around clock []) =
        .ok ⟨"2:30 AM".toList, [], "2:30 AM".toList⟩ ∧
      outcome (render around (some (.instant b))) (history around clock []) =
        .ok ⟨"3:30 AM".toList, [], "3:30 AM".toList⟩ ∧
      outcome (render around (some (.instant a))) (history around clock []) ≠
        outcome (render around (some (.instant b))) (history around clock []) := by
  intro skeletons around config clock a b
  have hresolve : ZoneName.resolve around.zones config.timezone = .ok clock.zone :=
    eq_ok_of_toOption (by decide +kernel)
  have hclock : withSelector around.zones (Selector.history around.formats []).state config =
      .ok clock := withSelector_of_resolve hresolve _
  have haface : outcome (render around (some (.instant a))) (history around clock []) =
      .ok ⟨"2:30 AM".toList, [], "2:30 AM".toList⟩ := eq_ok_of_toOption (by decide +kernel)
  have hbface : outcome (render around (some (.instant b))) (history around clock []) =
      .ok ⟨"3:30 AM".toList, [], "3:30 AM".toList⟩ := eq_ok_of_toOption (by decide +kernel)
  refine ⟨Zone.isReadable_table, DateText.ignoresFold_write, hclock, rfl, ⟨by decide, by decide⟩,
    ⟨by decide, by decide⟩, by decide +kernel, haface, hbface, fun heq => ?_⟩
  have hfaces := congrArg Except.toOption (haface.symm.trans (heq.trans hbface))
  exact absurd hfaces (by decide)

end Clock

end ClockFace
