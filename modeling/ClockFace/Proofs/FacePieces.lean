import ClockFace.Proofs.FaceClosed

/-! # Faces as rows of pieces

A face whose texts carry no markers but those around the AM/PM run is a row of pieces: the
parts of the time, the date and what stands between them. Its text is the pieces one
after the other, and its spans lie over the small pieces, in the order of the row.

`renderFace_ofPieces` says that rendering gives just this row. It goes through the marked
text that the date and the time make together (`face_marked`); the offsets of a date
before the run stay, and those of a date behind it move forward by what is deleted.

## Key results

- `textOf_pieces`, `spansFrom_left`, `spansFrom_right`: the text and the spans of a row
- `face_plain`, `face_alone`, `face_left`, `face_right`: the face is its row, case by case
- `renderFace_ofPieces`: rendering gives the row
-/

namespace ClockFace

/-- A piece of a face: its text, and which small run it is, if it is one. -/
structure Piece where
  text : List Char
  small : Option SpanKind

namespace Face

/-- The text of a row of pieces. -/
def textOf (pieces : List Piece) : List Char :=
  pieces.flatMap Piece.text

/-- The spans over the small pieces of a row that begins at an offset. -/
def spansFrom (offset : Nat) : List Piece → List Span
  | [] => []
  | piece :: rest =>
    let stop := offset + piece.text.length
    match piece.small with
    | none => spansFrom stop rest
    | some kind =>
      ⟨kind, offset, stop, .resize SpanAction.smallFactor, Nat.le_add_right _ _⟩ ::
        spansFrom stop rest

/-- The face that is a row of pieces. -/
def ofPieces (pieces : List Piece) (spoken : List Char) : Face :=
  ⟨textOf pieces, spansFrom 0 pieces, spoken⟩

end Face

/-- A written time, in its parts: one without a marked run, or one with the text before
the run, the run and the text behind it. -/
inductive WrittenTime where
  | plain (text : List Char)
  | marked (before run rest : List Char)

namespace WrittenTime

/-- The time as it is written. -/
def text : WrittenTime → List Char
  | .plain text => text
  | .marked before run rest => before ++ Marker.opening :: (run ++ Marker.closing :: rest)

/-- The parts hold no markers. -/
def MarkerFree : WrittenTime → Prop
  | .plain text => Marker.Free text
  | .marked before run rest => Marker.Free before ∧ Marker.Free run ∧ Marker.Free rest

/-- The time as an emphasis shows it. -/
def shown (e : Emphasis) : WrittenTime → List Char
  | .plain text => text
  | .marked before run rest =>
    match e with
    | .none => before ++ rest
    | .small | .normal => before ++ run ++ rest

/-- The pieces of the time as an emphasis shows it. -/
def pieces (e : Emphasis) : WrittenTime → List Piece
  | .plain text => [⟨text, none⟩]
  | .marked before run rest =>
    match e with
    | .none => [⟨before, none⟩, ⟨rest, none⟩]
    | .small => [⟨before, none⟩, ⟨run, some .amPmEmphasis⟩, ⟨rest, none⟩]
    | .normal => [⟨before, none⟩, ⟨run, none⟩, ⟨rest, none⟩]

end WrittenTime

namespace Config

/-- The piece that the date is. -/
def datePiece (c : Config) (date : List Char) : Piece :=
  ⟨date, if c.dateVisibility = .small then some .dateEmphasis else none⟩

/-- The pieces of a face. -/
def pieces (c : Config) (date : List Char) (time : WrittenTime) : List Piece :=
  match c.dateVisibility, c.datePosition with
  | .none, _ => time.pieces c.emphasis
  | _, .left => c.datePiece date :: ⟨Face.separator, none⟩ :: time.pieces c.emphasis
  | _, .right => time.pieces c.emphasis ++ [⟨Face.separator, none⟩, c.datePiece date]

theorem pieces_hidden {c : Config} (h : c.dateVisibility = .none) (date : List Char)
    (time : WrittenTime) : c.pieces date time = time.pieces c.emphasis := by
  rw [pieces, h]

theorem pieces_left {c : Config} (h : c.dateVisibility ≠ .none) (hp : c.datePosition = .left)
    (date : List Char) (time : WrittenTime) :
    c.pieces date time = [c.datePiece date, ⟨Face.separator, none⟩] ++ time.pieces c.emphasis := by
  cases hv : c.dateVisibility with
  | none => exact absurd hv h
  | small => rw [pieces, hv, hp]; rfl
  | normal => rw [pieces, hv, hp]; rfl

theorem pieces_right {c : Config} (h : c.dateVisibility ≠ .none) (hp : c.datePosition = .right)
    (date : List Char) (time : WrittenTime) :
    c.pieces date time = time.pieces c.emphasis ++ [⟨Face.separator, none⟩, c.datePiece date] := by
  cases hv : c.dateVisibility with
  | none => exact absurd hv h
  | small => rw [pieces, hv, hp]
  | normal => rw [pieces, hv, hp]

end Config

namespace Face

/-! ## The texts and the spans of rows -/

@[simp] theorem textOf_append (a b : List Piece) : textOf (a ++ b) = textOf a ++ textOf b :=
  List.flatMap_append

/-- The spans of two rows, one behind the other. -/
theorem spansFrom_append (offset : Nat) (a b : List Piece) :
    spansFrom offset (a ++ b) = spansFrom offset a ++ spansFrom (offset + (textOf a).length) b := by
  induction a generalizing offset with
  | nil => rfl
  | cons piece rest ih =>
    have hlength : offset + piece.text.length + (textOf rest).length =
        offset + (textOf (piece :: rest)).length := by
      simp only [textOf, List.flatMap_cons, List.length_append]
      omega
    rw [List.cons_append, spansFrom, spansFrom, ih, hlength]
    cases piece.small <;> rfl

theorem textOf_time (e : Emphasis) (time : WrittenTime) :
    textOf (time.pieces e) = time.shown e := by
  cases time with
  | plain text => exact List.append_nil text
  | marked before run rest => cases e <;> simp [textOf, WrittenTime.pieces, WrittenTime.shown]

theorem textOf_date (c : Config) (date : List Char) : textOf [c.datePiece date] = date :=
  List.append_nil date

/-- The pieces hold the text of the face. -/
theorem textOf_pieces (c : Config) (date : List Char) (time : WrittenTime) :
    textOf (c.pieces date time) = c.arrange separator date (time.shown c.emphasis) := by
  by_cases hv : c.dateVisibility = .none
  · rw [Config.pieces_hidden hv, Config.arrange_hidden hv, textOf_time]
  · cases hp : c.datePosition with
    | left =>
      rw [Config.pieces_left hv hp, Config.arrange_left hv hp, textOf_append, textOf_time]
      rfl
    | right =>
      rw [Config.pieces_right hv hp, Config.arrange_right hv hp, textOf_append, textOf_time,
        List.append_assoc]
      exact congrArg _ (congrArg _ (textOf_date c date))

theorem spansFrom_date (c : Config) (offset : Nat) (date : List Char) :
    spansFrom offset [c.datePiece date] = c.dateSpans offset date.length := by
  cases hv : c.dateVisibility <;> simp [spansFrom, Config.datePiece, Config.dateSpans, hv]

theorem spansFrom_plain (e : Emphasis) (offset : Nat) (text : List Char) :
    spansFrom offset ((WrittenTime.plain text).pieces e) = [] := rfl

/-- The span of a time lies on its run. -/
theorem spansFrom_marked (e : Emphasis) (offset : Nat) (before run rest : List Char) :
    spansFrom offset ((WrittenTime.marked before run rest).pieces e) =
      e.runSpans (offset + before.length) run.length := by
  cases e <;> rfl

theorem spansFrom_separator (offset : Nat) (row : List Piece) :
    spansFrom offset (⟨separator, none⟩ :: row) = spansFrom (offset + separator.length) row := rfl

theorem spansFrom_left {c : Config} (hv : c.dateVisibility ≠ .none) (hp : c.datePosition = .left)
    (date : List Char) (time : WrittenTime) :
    spansFrom 0 (c.pieces date time) =
      c.dateSpans 0 date.length ++
        spansFrom (date.length + separator.length) (time.pieces c.emphasis) := by
  rw [Config.pieces_left hv hp, ← List.singleton_append, List.append_assoc, spansFrom_append,
    spansFrom_date, textOf_date, Nat.zero_add, List.singleton_append, spansFrom_separator]

theorem spansFrom_right {c : Config} (hv : c.dateVisibility ≠ .none) (hp : c.datePosition = .right)
    (date : List Char) (time : WrittenTime) :
    spansFrom 0 (c.pieces date time) =
      spansFrom 0 (time.pieces c.emphasis) ++
        c.dateSpans ((time.shown c.emphasis).length + separator.length) date.length := by
  rw [Config.pieces_right hv hp, spansFrom_append, spansFrom_separator, spansFrom_date,
    textOf_time, Nat.zero_add]

/-! ## Faces of texts without markers -/

theorem sortedSpans_dateSpans (c : Config) (text : List Char) (start length : Nat) :
    (Buffer.mk text (c.dateSpans start length)).sortedSpans = c.dateSpans start length := by
  cases hv : c.dateVisibility <;> simp [Config.dateSpans, Buffer.sortedSpans, hv]

/-- A shown date and a time without markers make a text without markers. -/
theorem free_arrange {c : Config} {date text : List Char}
    (hdate : c.dateVisibility ≠ .none → Marker.Free date) (htext : Marker.Free text) :
    Marker.Free (c.arrange separator date text) := by
  by_cases hv : c.dateVisibility = .none
  · rw [Config.arrange_hidden hv]
    exact htext
  · cases hp : c.datePosition with
    | left =>
      rw [Config.arrange_left hv hp, Marker.free_append, Marker.free_append]
      exact ⟨⟨hdate hv, separator_free⟩, htext⟩
    | right =>
      rw [Config.arrange_right hv hp, Marker.free_append, Marker.free_append]
      exact ⟨⟨htext, separator_free⟩, hdate hv⟩

/-- A text without markers is the row of the date and the time. -/
theorem face_plain (c : Config) {date text : List Char} (spoken : List Char)
    (hfree : Marker.Free (c.arrange separator date text)) :
    c.face date text spoken = ofPieces (c.pieces date (.plain text)) spoken := by
  have hnone : markedRun? (c.composed date text).text = none :=
    markedRun?_of_closing_not_mem hfree.2
  have htext : textOf (c.pieces date (.plain text)) = c.arrange separator date text :=
    textOf_pieces c date (.plain text)
  have hspans : spansFrom 0 (c.pieces date (.plain text)) =
      c.dateSpans (c.dateStart text.length) date.length := by
    by_cases hv : c.dateVisibility = .none
    · rw [Config.pieces_hidden hv, Config.dateSpans, hv, spansFrom_plain]
    · cases hp : c.datePosition with
      | left =>
        rw [spansFrom_left hv hp, spansFrom_plain, List.append_nil, Config.dateStart_left hp]
      | right =>
        rw [spansFrom_right hv hp, spansFrom_plain, List.nil_append, Config.dateStart_right hp]
        rfl
  rw [Config.face, Buffer.settled_of_none hnone, ofPieces, htext, hspans]
  exact congrArg (Face.mk _ · spoken) (sortedSpans_dateSpans c _ _ _)

/-! ## Faces of texts with one marked run -/

/-- The face of a marked text. -/
theorem face_marked (c : Config) {date time : List Char} (spoken : List Char) {m : MarkedText}
    (h : m.text = c.arrange separator date time) :
    c.face date time spoken =
      ⟨m.shown c.emphasis,
        (Buffer.mk (m.shown c.emphasis)
          ((c.dateSpans (c.dateStart time.length) date.length).map
              (Span.settled c.emphasis m.start m.stop) ++
            c.emphasis.runSpans m.start m.run.length)).sortedSpans,
        spoken⟩ := by
  rw [Config.face, Config.composed, ← h, Buffer.settled_text]

/-- A date before the run keeps its place. -/
theorem settled_dateSpans_left (c : Config) {start length first last : Nat}
    (h : start + length ≤ first) (hlt : first < last) :
    (c.dateSpans start length).map (Span.settled c.emphasis first last) =
      c.dateSpans start length := by
  rw [Config.dateSpans]
  cases c.dateVisibility with
  | small => exact congrArg (fun s => [s]) (Span.settled_of_le _ h hlt)
  | none => rfl
  | normal => rfl

/-- A date behind the run moves forward by what is removed. -/
theorem settled_dateSpans_right (c : Config) {start length first last : Nat} (h : last < start)
    (hlt : first < last) (hremoved : c.emphasis.removed first last ≤ start) :
    (c.dateSpans start length).map (Span.settled c.emphasis first last) =
      c.dateSpans (start - c.emphasis.removed first last) length := by
  rw [Config.dateSpans, Config.dateSpans]
  cases c.dateVisibility with
  | small =>
    refine congrArg (fun s => [s]) ((Span.settled_of_gt _ h hlt).trans ?_)
    simp only [Span.mk.injEq, true_and, and_true]
    omega
  | none => rfl
  | normal => rfl

/-- The date's span comes first when the date stands before the run. -/
theorem sortedSpans_left (c : Config) (text : List Char) {start first : Nat} (h : start ≤ first)
    (length width : Nat) :
    (Buffer.mk text (c.dateSpans start length ++ c.emphasis.runSpans first width)).sortedSpans =
      c.dateSpans start length ++ c.emphasis.runSpans first width := by
  apply List.mergeSort_of_pairwise
  rw [Config.dateSpans]
  cases c.dateVisibility <;> cases c.emphasis <;> simp [Emphasis.runSpans, h]

/-- The run's span comes first when the date stands behind it. -/
theorem sortedSpans_right (c : Config) (text : List Char) {start first : Nat} (h : first < start)
    (length width : Nat) :
    (Buffer.mk text (c.dateSpans start length ++ c.emphasis.runSpans first width)).sortedSpans =
      c.emphasis.runSpans first width ++ c.dateSpans start length := by
  rw [Config.dateSpans]
  cases c.dateVisibility <;> cases c.emphasis <;>
    simp [Emphasis.runSpans, Buffer.sortedSpans, List.mergeSort,
      List.MergeSort.Internal.splitInTwo, h]

/-- The run of a time stands in the whole text where its part of the time stands. -/
theorem shown_marked (e : Emphasis) (before run rest : List Char) :
    (WrittenTime.marked before run rest).shown e = before ++ e.runText run ++ rest := by
  cases e <;> simp [WrittenTime.shown, Emphasis.runText]

/-- The row of a time without a date. -/
theorem face_alone {c : Config} {before run rest : List Char} (date spoken : List Char)
    (hv : c.dateVisibility = .none) (hbefore : Marker.Free before) (hrun : Marker.Free run) :
    c.face date (WrittenTime.marked before run rest).text spoken =
      ofPieces (c.pieces date (.marked before run rest)) spoken := by
  -- The whole text is the time
  let m : MarkedText := ⟨before, run, rest, hbefore, hrun.2⟩
  have hm : m.text = c.arrange separator date (WrittenTime.marked before run rest).text :=
    (Config.arrange_hidden hv _ _ _).symm
  have hdate (start length : Nat) : c.dateSpans start length = [] := by
    rw [Config.dateSpans, hv]
  have hsort := sortedSpans_left c (m.shown c.emphasis) (Nat.zero_le m.start) 0 m.run.length
  rw [hdate, List.nil_append] at hsort
  rw [face_marked c spoken hm, hdate, List.map_nil, List.nil_append, hsort, ofPieces,
    textOf_pieces, Config.arrange_hidden hv, Config.pieces_hidden hv, spansFrom_marked,
    shown_marked, Nat.zero_add]
  rfl

/-- The row of a date on the left: its span stays and comes before that of the run. -/
theorem face_left {c : Config} {date before run rest : List Char} (spoken : List Char)
    (hv : c.dateVisibility ≠ .none) (hp : c.datePosition = .left) (hdate : Marker.Free date)
    (hbefore : Marker.Free before) (hrun : Marker.Free run) :
    c.face date (WrittenTime.marked before run rest).text spoken =
      ofPieces (c.pieces date (.marked before run rest)) spoken := by
  -- The date and the separator stand before the run
  let m : MarkedText := ⟨date ++ separator ++ before, run, rest,
    Marker.free_append.2 ⟨Marker.free_append.2 ⟨hdate, separator_free⟩, hbefore⟩, hrun.2⟩
  have hm : m.text = c.arrange separator date (WrittenTime.marked before run rest).text := by
    rw [Config.arrange_left hv hp, MarkedText.text, WrittenTime.text, List.append_assoc]
  have hstart : m.start = date.length + separator.length + before.length := by
    simp only [m, MarkedText.start, List.length_append]
  have hshown : m.shown c.emphasis =
      date ++ separator ++ (WrittenTime.marked before run rest).shown c.emphasis := by
    simp only [m, MarkedText.shown, shown_marked, List.append_assoc]
  have hbehind : c.dateStart (WrittenTime.marked before run rest).text.length + date.length ≤
      m.start := by
    rw [Config.dateStart_left hp, hstart]
    omega
  rw [face_marked c spoken hm, settled_dateSpans_left c hbehind m.start_lt_stop,
    sortedSpans_left c _ (Nat.le_trans (Nat.le_add_right _ _) hbehind), ofPieces, textOf_pieces,
    Config.arrange_left hv hp, hshown, spansFrom_left hv hp, spansFrom_marked, ← hstart,
    Config.dateStart_left hp]

/-- The row of a date on the right: its span moves forward and comes behind that of the run. -/
theorem face_right {c : Config} {date before run rest : List Char} (spoken : List Char)
    (hv : c.dateVisibility ≠ .none) (hp : c.datePosition = .right)
    (hbefore : Marker.Free before) (hrun : Marker.Free run) :
    c.face date (WrittenTime.marked before run rest).text spoken =
      ofPieces (c.pieces date (.marked before run rest)) spoken := by
  -- The separator and the date stand behind the run, whatever they hold
  let m : MarkedText := ⟨before, run, rest ++ separator ++ date, hbefore, hrun.2⟩
  have hm : m.text = c.arrange separator date (WrittenTime.marked before run rest).text := by
    simp [m, MarkedText.text, WrittenTime.text, Config.arrange_right hv hp]
  have hshown : m.shown c.emphasis =
      (WrittenTime.marked before run rest).shown c.emphasis ++ separator ++ date := by
    simp only [m, MarkedText.shown, shown_marked, List.append_assoc]
  -- What is removed from the whole text is what the time loses
  have hlength := m.length_shown c.emphasis
  rw [hm, hshown, Config.arrange_right hv hp] at hlength
  simp only [List.length_append] at hlength
  have hlt : m.stop < (WrittenTime.marked before run rest).text.length := by
    simp only [m, MarkedText.stop, WrittenTime.text, List.length_append, List.length_cons]
    omega
  -- So the date moves to just behind what is left of the time
  have hplace : (WrittenTime.marked before run rest).text.length + separator.length -
        c.emphasis.removed m.start m.stop =
      ((WrittenTime.marked before run rest).shown c.emphasis).length + separator.length := by
    omega
  have hrun_before : m.start <
      ((WrittenTime.marked before run rest).shown c.emphasis).length + separator.length := by
    simp only [m, MarkedText.start, shown_marked, separator, List.length_append,
      List.length_singleton]
    omega
  rw [face_marked c spoken hm, Config.dateStart_right hp,
    settled_dateSpans_right c (by omega) m.start_lt_stop (by omega), hplace,
    sortedSpans_right c _ hrun_before, ofPieces, textOf_pieces, Config.arrange_right hv hp, hshown,
    spansFrom_right hv hp, spansFrom_marked, Nat.zero_add]
  rfl

end Face

/-- Rendering puts the pieces of the time and the date in a row: a small date and a small
AM/PM run get the only spans, each over its own piece. The date is what is written for it, in the
case that is set. -/
theorem renderFace_ofPieces {σ : Type} {dates : DateWriter} {formats : TimeFormats} {c : Config}
    {instant : Instant} {time : WrittenTime} {written spoken : List Char} (s : Session σ)
    (htime : formats.display.write instant = .ok time.text) (hfree : time.MarkerFree)
    (hspoken : formats.spoken.write instant = .ok spoken)
    (hdate : c.dateVisibility ≠ .none → dates instant c.datePattern c.locale = .ok written ∧
      Marker.Free (c.dateCase.shown written)) :
    let date := c.dateCase.shown written
    (renderFace dates formats c.layout instant).outcome s =
        .ok (Face.ofPieces (c.pieces date time) spoken) ∧
      Face.textOf (c.pieces date time) =
        c.arrange Face.separator date (time.shown c.emphasis) := by
  intro date
  refine ⟨?_, Face.textOf_pieces c date time⟩
  have hcase (hv : c.dateVisibility ≠ .none) : c.layout.writeDate dates instant = .ok date :=
    Config.writeDate_eq_ok_iff.2 ⟨written, (hdate hv).1, rfl⟩
  rw [renderFace_outcome, Face.ofInstant_layout htime hspoken hcase]
  congr 1
  cases time with
  | plain text =>
    exact Face.face_plain c spoken (Face.free_arrange (fun hv => (hdate hv).2) hfree)
  | marked before run rest =>
    obtain ⟨hbefore, hrun, -⟩ := hfree
    by_cases hv : c.dateVisibility = .none
    · exact Face.face_alone date spoken hv hbefore hrun
    · cases hp : c.datePosition with
      | left => exact Face.face_left spoken hv hp (hdate hv).2 hbefore hrun
      | right => exact Face.face_right spoken hv hp hbefore hrun

/-- A small date in upper case behind a small AM/PM run: the date is found where it stands once the
markers are gone. -/
theorem renderFace_ofPieces_afternoon :
    let small := SpanAction.resize ⟨false, 7, -1⟩
    (renderFace (fun _ _ _ => .ok "Wed".toList)
        ⟨0, .english "h:mm\uef00 a\uef01", .english "h:mm a"⟩
        { emphasis := .small, dateVisibility := .small, datePosition := .right,
          dateCase := .upper : Config }.layout
        .afternoon).outcome (⟨(), []⟩ : Session Unit) =
      .ok
        ⟨"3:04 PM WED".toList,
          [⟨.amPmEmphasis, 4, 7, small, by decide⟩, ⟨.dateEmphasis, 8, 11, small, by decide⟩],
          "3:04 PM".toList⟩ := by
  intro small
  let time : WrittenTime := .marked "3:04".toList " PM".toList []
  let formats : TimeFormats := ⟨0, .english "h:mm\uef00 a\uef01", .english "h:mm a"⟩
  let c : Config :=
    { emphasis := .small, dateVisibility := .small, datePosition := .right, dateCase := .upper }
  let dates : DateWriter := fun _ _ _ => .ok "Wed".toList
  have htime : formats.display.write .afternoon = .ok time.text := rfl
  have hfree : time.MarkerFree := ⟨by decide, by decide, by decide⟩
  have hspoken : formats.spoken.write .afternoon = .ok "3:04 PM".toList := rfl
  have hwritten : dates .afternoon c.datePattern c.locale = .ok "Wed".toList := rfl
  have hcase : c.dateCase.shown "Wed".toList = "WED".toList := by decide +kernel
  have hwed : Marker.Free (c.dateCase.shown "Wed".toList) := by
    rw [hcase]
    decide
  exact (renderFace_ofPieces ⟨(), []⟩ htime hfree hspoken fun _ => ⟨hwritten, hwed⟩).1

end ClockFace
