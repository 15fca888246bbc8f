import ClockFace.Proofs.AttemptRun
import ClockFace.Proofs.MarkedRun
import ClockFace.Run.Render

/-! # Faces in closed form

For a checked configuration nothing about putting a face together can fail but the writing
of its texts. `Config.face` is the face in closed form, and rendering gives just this face
once its texts are written (`renderFace_outcome`, `ofInstant_eq_ok`).

`Config.arrange` says how the date and the time stand side by side; it is stated for any
two lists, so that it also arranges what the two contribute to a face, such as their
markers.

## Key results

- `Config.writeDate_eq_ok_iff`: the date is the writer's text in the case that is set
- `Face.compose_layout`: putting written texts together never fails, and gives `Config.face`
- `Face.ofInstant_eq_ok`: every face comes from written texts
- `renderFace_outcome`: rendering depends on the instant alone
-/

namespace ClockFace

/-- The date and the time side by side, or the time alone if no date is shown. -/
def Config.arrange (c : Config) (separator date time : List Char) : List Char :=
  match c.dateVisibility, c.datePosition with
  | .none, _ => time
  | _, .left => date ++ separator ++ time
  | _, .right => time ++ separator ++ date

namespace Config

theorem arrange_hidden {c : Config} (h : c.dateVisibility = .none)
    (separator date time : List Char) : c.arrange separator date time = time := by
  rw [arrange, h]

theorem arrange_left {c : Config} (h : c.dateVisibility ≠ .none) (hp : c.datePosition = .left)
    (separator date time : List Char) :
    c.arrange separator date time = date ++ separator ++ time := by
  cases hv : c.dateVisibility with
  | none => exact absurd hv h
  | small => rw [arrange, hv, hp]
  | normal => rw [arrange, hv, hp]

theorem arrange_right {c : Config} (h : c.dateVisibility ≠ .none) (hp : c.datePosition = .right)
    (separator date time : List Char) :
    c.arrange separator date time = time ++ separator ++ date := by
  cases hv : c.dateVisibility with
  | none => exact absurd hv h
  | small => rw [arrange, hv, hp]
  | normal => rw [arrange, hv, hp]

/-- The date does not hide which time stands beside it. -/
theorem arrange_inj (c : Config) (separator date : List Char) {a b : List Char} :
    c.arrange separator date a = c.arrange separator date b ↔ a = b := by
  by_cases hv : c.dateVisibility = .none
  · rw [arrange_hidden hv, arrange_hidden hv]
  · cases hp : c.datePosition with
    | left => rw [arrange_left hv hp, arrange_left hv hp, List.append_cancel_left_eq]
    | right =>
      rw [arrange_right hv hp, arrange_right hv hp, List.append_assoc, List.append_assoc,
        List.append_cancel_right_eq]

end Config

/-- Where the date starts beside a time of the given length. -/
def Config.dateStart (c : Config) (timeLength : Nat) : Nat :=
  match c.datePosition with
  | .left => 0
  | .right => timeLength + Face.separator.length

theorem Config.dateStart_left {c : Config} (hp : c.datePosition = .left) (timeLength : Nat) :
    c.dateStart timeLength = 0 := by
  rw [dateStart, hp]

theorem Config.dateStart_right {c : Config} (hp : c.datePosition = .right) (timeLength : Nat) :
    c.dateStart timeLength = timeLength + Face.separator.length := by
  rw [dateStart, hp]

/-- The span that a small date gets. -/
def Config.dateSpans (c : Config) (start length : Nat) : List Span :=
  match c.dateVisibility with
  | .small =>
    [⟨.dateEmphasis, start, start + length, .resize SpanAction.smallFactor, Nat.le_add_right _ _⟩]
  | .none | .normal => []

/-- A date that is shown is the writer's text in the case that is set. -/
theorem Config.writeDate_eq_ok_iff {c : Config} {dates : DateWriter} {instant : Instant}
    {date : List Char} :
    c.layout.writeDate dates instant = .ok date ↔
      ∃ written, dates instant c.datePattern c.locale = .ok written ∧
        c.dateCase.shown written = date := by
  rw [writeDate_layout]
  constructor
  · exact of_map_eq_ok
  · rintro ⟨written, hwritten, rfl⟩
    rw [hwritten]
    rfl

/-- The buffer of the date and the time, before its marked run is settled. -/
def Config.composed (c : Config) (date time : List Char) : Buffer :=
  ⟨c.arrange Face.separator date time, c.dateSpans (c.dateStart time.length) date.length⟩

/-- The face of written texts. -/
def Config.face (c : Config) (date time spoken : List Char) : Face :=
  let b := (c.composed date time).settled c.emphasis
  ⟨b.text, b.sortedSpans, spoken⟩

/-- The text of a face is what settling leaves of the date and the time. -/
theorem Face.text_face (c : Config) (date time spoken : List Char) :
    (c.face date time spoken).text =
      c.emphasis.settledText (c.arrange Face.separator date time) :=
  Buffer.text_settled c.emphasis (c.composed date time)

namespace Face

theorem separator_free : Marker.Free separator := by decide

/-- The face of an instant, or why there is none. -/
def ofInstant (dates : DateWriter) (formats : TimeFormats) (layout : Layout) (instant : Instant) :
    Except Failure Face :=
  match formats.display.write instant, formats.spoken.write instant with
  | .error e, _ => .error e
  | .ok _, .error e => .error e
  | .ok time, .ok spoken => compose layout (layout.writeDate dates instant) time spoken

/-- The date and its offset, for a checked position. -/
theorem join_layout (c : Config) (h : c.dateVisibility ≠ .none) (date time : List Char) :
    join c.layout date time = .ok (c.arrange separator date time, c.dateStart time.length) := by
  cases hp : c.datePosition <;> cases hv : c.dateVisibility <;>
    simp_all [join, Config.layout, Config.arrange, Config.dateStart]

/-- Adding a written date never fails. -/
theorem addDate_layout (c : Config) (date time : List Char) :
    addDate c.layout (.ok date) time = .ok (c.composed date time) := by
  have hshown : c.layout.dateVisibility = .known c.dateVisibility := rfl
  rw [addDate, hshown, Config.composed, Config.dateSpans]
  cases hv : c.dateVisibility with
  | none =>
    rw [Config.arrange, hv]
    rfl
  | small =>
    have hjoin := join_layout c (by simp [hv]) date time
    have hspan : Span.make .dateEmphasis (c.dateStart time.length)
        (c.dateStart time.length + date.length) (.resize SpanAction.smallFactor) = .ok
          ⟨.dateEmphasis, c.dateStart time.length, c.dateStart time.length + date.length,
            .resize SpanAction.smallFactor, by omega⟩ :=
      Span.make_natCast .dateEmphasis _ _ _ (by omega)
    simp only [hjoin, bind, Except.bind, hspan]
    rfl
  | normal =>
    have hjoin := join_layout c (by simp [hv]) date time
    simp only [hjoin, bind, Except.bind]
    rfl

/-- A date that is not shown is not needed. -/
theorem addDate_hidden {c : Config} (h : c.dateVisibility = .none)
    (date : Except Failure (List Char)) (time : List Char) :
    addDate c.layout date time = .ok ⟨time, []⟩ := by
  have hhidden : c.layout.dateVisibility = .known .none := congrArg Given.known h
  rw [addDate, hhidden]
  rfl

/-- A date that is shown and cannot be written leaves no face. -/
theorem addDate_error {c : Config} (h : c.dateVisibility ≠ .none) (e : Failure)
    (time : List Char) : addDate c.layout (.error e) time = .error e := by
  have hshown : c.layout.dateVisibility = .known c.dateVisibility := rfl
  rw [addDate, hshown]
  cases hv : c.dateVisibility with
  | none => exact absurd hv h
  | small => rfl
  | normal => rfl

/-- Putting written texts together never fails. -/
theorem compose_layout (c : Config) (date time spoken : List Char) :
    compose c.layout (.ok date) time spoken = .ok (c.face date time spoken) := by
  have hsettle : settleRun c.layout (c.composed date time) =
      .ok ((c.composed date time).settled c.emphasis) := settleRun_eq rfl _
  simp only [compose, addDate_layout, bind, Except.bind, hsettle]
  rfl

/-- The face of an instant once its texts are written; the date counts only if it is shown. -/
theorem ofInstant_layout {dates : DateWriter} {formats : TimeFormats} {c : Config}
    {instant : Instant} {date time spoken : List Char}
    (htime : formats.display.write instant = .ok time)
    (hspoken : formats.spoken.write instant = .ok spoken)
    (hdate : c.dateVisibility ≠ .none → c.layout.writeDate dates instant = .ok date) :
    ofInstant dates formats c.layout instant = .ok (c.face date time spoken) := by
  rw [ofInstant, htime, hspoken]
  by_cases hv : c.dateVisibility = .none
  · -- Any date will do in place of the one that is not shown
    show compose c.layout (c.layout.writeDate dates instant) time spoken = _
    rw [← compose_layout, compose, compose, addDate_hidden hv, addDate_hidden hv]
  · rw [hdate hv]
    exact compose_layout c date time spoken

/-- A face comes from written texts, among them the date if it is shown. -/
theorem ofInstant_eq_ok {dates : DateWriter} {formats : TimeFormats} {c : Config}
    {instant : Instant} {f : Face} (h : ofInstant dates formats c.layout instant = .ok f) :
    ∃ date time spoken, formats.display.write instant = .ok time ∧
      formats.spoken.write instant = .ok spoken ∧
      (c.dateVisibility ≠ .none → c.layout.writeDate dates instant = .ok date) ∧
      f = c.face date time spoken := by
  cases htime : formats.display.write instant with
  | error e => rw [ofInstant, htime] at h; cases h
  | ok time =>
    cases hspoken : formats.spoken.write instant with
    | error e => rw [ofInstant, htime, hspoken] at h; cases h
    | ok spoken =>
      -- A date that is not shown may fail to be written, so that any stands for it
      by_cases hv : c.dateVisibility = .none
      · have hface : ofInstant dates formats c.layout instant = .ok (c.face [] time spoken) :=
          ofInstant_layout htime hspoken fun hshown => absurd hv hshown
        rw [h, Except.ok.injEq] at hface
        exact ⟨[], time, spoken, rfl, rfl, fun hshown => absurd hv hshown, hface⟩
      · rw [ofInstant, htime, hspoken] at h
        cases hdate : c.layout.writeDate dates instant with
        | error e =>
          simp only [hdate, compose, addDate_error hv, bind, Except.bind] at h
          cases h
        | ok date =>
          simp only [hdate, compose_layout, Except.ok.injEq] at h
          exact ⟨date, time, spoken, rfl, rfl, fun _ => rfl, h.symm⟩

end Face

/-- Rendering gives the face of the instant, whatever came before. -/
theorem renderFace_outcome {σ : Type} (dates : DateWriter) (formats : TimeFormats)
    (layout : Layout) (instant : Instant) (s : Session σ) :
    (renderFace dates formats layout instant).outcome s =
      Face.ofInstant dates formats layout instant := by
  simp only [renderFace, Face.ofInstant, Attempt.outcome_bind, Attempt.outcome_ofExcept]
  cases formats.display.write instant with
  | error e => rfl
  | ok time =>
    cases formats.spoken.write instant with
    | error e => rfl
    | ok spoken => cases layout.showsDate <;> rfl

/-- Rendering changes nothing. -/
theorem keeps_renderFace {σ : Type} {P : σ → Prop} (dates : DateWriter) (formats : TimeFormats)
    (layout : Layout) (instant : Instant) :
    Attempt.Keeps P (renderFace dates formats layout instant) := by
  refine Attempt.keeps_bind (Attempt.keeps_ofExcept _) fun _ =>
    Attempt.keeps_bind (Attempt.keeps_ofExcept _) fun _ => ?_
  dsimp only
  split
  · exact Attempt.keeps_bind (Attempt.keeps_event _) fun _ => Attempt.keeps_ofExcept _
  · exact Attempt.keeps_ofExcept _

/-! ## Formats to try things on -/

/-- The format of a pattern in American English. -/
def TimeFormat.english (pattern : String) : TimeFormat where
  pattern := pattern.toList
  locale := ⟨"en_US", LocaleData.enUs⟩
  compiled := ⟨Pattern.tokensOf pattern.toList⟩

/-- The tenth of January 2024, five seconds past 3:04 in the afternoon. -/
def Instant.afternoon : Instant where
  wall := 1704899045000000
  frame := .floating

end ClockFace
