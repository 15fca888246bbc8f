import ClockFace.Proofs.BufferEdits

/-! # The span of a small date

A small date is shown as a date of normal size is, with one span more. The span is there from
the start and goes through the same deletions as the text, so that they may shift it, cut
characters out of it, or leave nothing of it, wherever the marked run lies. Settling a run is
said as edits of the text here (`Emphasis.edits`), so that a span reads what is left of its run.

## Key results

- `Emphasis.survives_edits`: the characters that settling a marked run deletes
- `Buffer.settled_cons`: settling a buffer with one span more
- `Buffer.sortedSpans_cons`: sorting with one span more
- `renderFace_small_date`: the faces with a small date and with one of normal size
-/

namespace ClockFace

/-! ## Settling as edits -/

namespace Buffer

/-- A deletion alone spares what lies outside its range. -/
theorem survives_delete {start stop : Nat} (h : start < stop) (offset : Nat) :
    survives [.delete start stop] offset = !(start ≤ offset && offset < stop) := by
  obtain hbefore | hstart := Nat.lt_or_ge offset start
  · rw [survives_delete_of_lt stop [] hbefore]
    simp [survives, Nat.not_le_of_lt hbefore]
  · obtain hinside | hstop := Nat.lt_or_ge offset stop
    · rw [survives_delete_of_mem [] hstart hinside]
      simp [hstart, hinside]
    · obtain ⟨k, rfl⟩ := Nat.exists_eq_add_of_le hstop
      rw [survives_delete_of_ge h]
      simp [survives]

end Buffer

namespace Emphasis

/-- The edits that settle the run marked at `start` and `stop`. -/
def edits (e : Emphasis) (start stop : Nat) : List Buffer.Edit :=
  match e with
  | .none => [.delete start (stop + 1 : Nat)]
  | .small | .normal => [.delete stop (stop + 1 : Nat), .delete start (start + 1 : Nat)]

/-- Settling the run marked at `start` and `stop` deletes the character at an offset. A hidden
run goes with its markers, and of any other only the markers go. -/
def deletes (e : Emphasis) (start stop offset : Nat) : Bool :=
  match e with
  | .none => start ≤ offset && offset < stop + 1
  | .small | .normal => offset == start || offset == stop

/-- Settling a text leaves the character at an offset. -/
def leaves (e : Emphasis) (text : List Char) (offset : Nat) : Bool :=
  match Face.markedRun? text with
  | .none => true
  | .some (start, stop) => !e.deletes start stop offset

/-- Deleting two markers, the last one first, spares everything else. -/
theorem survives_delete_markers {start stop : Nat} (h : start < stop) (offset : Nat) :
    Buffer.survives [.delete stop (stop + 1 : Nat), .delete start (start + 1 : Nat)] offset =
      !(offset == start || offset == stop) := by
  have hopening := Buffer.survives_delete (Nat.lt_succ_self start)
  obtain hbefore | hstop := Nat.lt_or_ge offset stop
  · rw [Buffer.survives_delete_of_lt _ _ hbefore, hopening, Bool.eq_iff_iff]
    simp
    omega
  · obtain rfl | hbehind := Nat.eq_or_lt_of_le hstop
    · rw [Buffer.survives_delete_of_mem _ (Nat.le_refl _) (Nat.lt_succ_self _)]
      simp
    · -- The closing marker goes first and moves what is behind it, but not up to the opening one
      obtain ⟨k, rfl⟩ := Nat.exists_eq_add_of_le (Nat.succ_le_of_lt hbehind)
      rw [Nat.succ_eq_add_one, Buffer.survives_delete_of_ge (Nat.lt_succ_self stop), hopening,
        Bool.eq_iff_iff]
      simp
      omega

theorem survives_edits (e : Emphasis) {start stop : Nat} (h : start < stop) :
    Buffer.survives (e.edits start stop) = fun offset => !e.deletes start stop offset := by
  funext offset
  cases e with
  | none => exact Buffer.survives_delete (Nat.lt_succ_of_lt h) offset
  | small => exact survives_delete_markers h offset
  | normal => exact survives_delete_markers h offset

end Emphasis

/-- Settling moves a span as its edits carry it. -/
theorem Span.settled_eq_carried (e : Emphasis) {start stop : Nat} (h : start < stop) (s : Span) :
    s.settled e start stop = s.carried (e.edits start stop) := by
  have hmoved {start stop : Nat} (h : start < stop) (rest : List Buffer.Edit) (s : Span) :
      (s.moved start stop).carried rest = s.carried (.delete start stop :: rest) :=
    congrFun (carried_moved h rest) s
  cases e with
  | none => rw [Emphasis.edits, ← hmoved (Nat.lt_succ_of_lt h), carried_none]; rfl
  | small =>
    rw [Emphasis.edits, ← hmoved (Nat.lt_succ_self _), ← hmoved (Nat.lt_succ_self _), carried_none]
    rfl
  | normal =>
    rw [Emphasis.edits, ← hmoved (Nat.lt_succ_self _), ← hmoved (Nat.lt_succ_self _), carried_none]
    rfl

namespace MarkedText

/-- Settling leaves of a marked text what survives its edits. -/
theorem shown_eq_survivors (e : Emphasis) (m : MarkedText) :
    m.shown e = Buffer.survivors (e.edits m.start m.stop) 0 m.text := by
  have hrun := Face.cut_run m
  have hclosing := Face.cut_closing m
  have hopening := Face.cut_opening m
  rw [Buffer.cutText_natCast] at hrun hclosing hopening
  have hmarkers : m.before ++ (m.run ++ m.rest) = Buffer.survivors
      [.delete m.stop (m.stop + 1 : Nat), .delete m.start (m.start + 1 : Nat)] 0 m.text := by
    rw [Buffer.survivors_delete (Nat.lt_succ_self _), hclosing,
      Buffer.survivors_delete (Nat.lt_succ_self _), hopening, Buffer.survivors_none]
  cases e with
  | none =>
    rw [Emphasis.edits, Buffer.survivors_delete (Nat.lt_succ_of_lt m.start_lt_stop), hrun,
      Buffer.survivors_none, shown, Emphasis.runText, List.append_nil]
  | small => rw [Emphasis.edits, ← hmarkers, shown, Emphasis.runText, List.append_assoc]
  | normal => rw [Emphasis.edits, ← hmarkers, shown, Emphasis.runText, List.append_assoc]

end MarkedText

/-- What has become of a span of a text in the text that settling leaves. -/
structure Span.IsLeft (e : Emphasis) (text : List Char) (s d : Span) : Prop where
  kind : d.kind = s.kind
  action : d.action = s.action
  start : d.start = (Text.kept (e.leaves text) 0 (text.take s.start)).length
  run : d.run (Text.kept (e.leaves text) 0 text) = Text.kept (e.leaves text) s.start (s.run text)

namespace Buffer

/-- What is left of a span of a text by the edits that settle it. -/
theorem isLeft_carried {e : Emphasis} {text : List Char} {edits : List Edit} {s : Span}
    (hedits : survives edits = e.leaves text) (h : s.stop ≤ text.length) :
    Span.IsLeft e text s (s.carried edits) := by
  have hfollows := follows_carried edits h
  have hstart := Nat.le_trans s.start_le_stop h
  refine ⟨rfl, rfl, ?_, ?_⟩
  · rw [← hedits, ← survivors_eq_kept, length_survivors, List.length_take_of_le hstart]
    exact hfollows.start
  · rw [← hedits, ← survivors_eq_kept, ← survivors_eq_kept]
    exact hfollows.run

/-- A span more does not change what settling makes of a text and the other spans. -/
theorem settled_cons (e : Emphasis) {text : List Char} {s : Span} (spans : List Span)
    (h : s.stop ≤ text.length) :
    ∃ d others, s.IsLeft e text d ∧
      settled e ⟨text, spans⟩ = ⟨Text.kept (e.leaves text) 0 text, others⟩ ∧
      settled e ⟨text, s :: spans⟩ = ⟨Text.kept (e.leaves text) 0 text, d :: others⟩ := by
  obtain hnone | ⟨m, rfl⟩ := Face.markedRun?_eq_none_or text
  · have hedits : survives [] = e.leaves text := by
      funext offset
      rw [Emphasis.leaves, hnone]
      rfl
    refine ⟨s.carried [], spans, isLeft_carried hedits h, ?_, ?_⟩
    · rw [settled_of_none hnone, ← hedits, ← survivors_eq_kept, survivors_none]
    · rw [settled_of_none hnone, ← hedits, ← survivors_eq_kept, survivors_none, s.carried_none]
  · have hlt := m.start_lt_stop
    have hedits : survives (e.edits m.start m.stop) = e.leaves m.text := by
      funext offset
      rw [e.survives_edits hlt, Emphasis.leaves, Face.markedRun?_text]
    refine ⟨s.carried (e.edits m.start m.stop), spans.map (Span.settled e m.start m.stop) ++
      e.runSpans m.start m.run.length, isLeft_carried hedits h, ?_, ?_⟩
    · rw [settled_text, m.shown_eq_survivors, survivors_eq_kept, hedits]
    · rw [settled_text, m.shown_eq_survivors, survivors_eq_kept, hedits, List.map_cons,
        List.cons_append, Span.settled_eq_carried e hlt]

/-- A hidden run that ends within the date takes the beginning of the date along. -/
example :
    let small := SpanAction.resize SpanAction.smallFactor
    settled .none ⟨"3:04\uef00 PM 1\uef010 Jan".toList, [⟨.dateEmphasis, 9, 16, small, by decide⟩]⟩ =
      ⟨"3:040 Jan".toList, [⟨.dateEmphasis, 4, 9, small, by decide⟩]⟩ := by
  decide

/-- A span more goes to its place among the sorted spans, and before those with its start. -/
theorem sortedSpans_cons (text : List Char) (d : Span) (spans : List Span) :
    ∃ before behind, (Buffer.mk text spans).sortedSpans = before ++ behind ∧
      (Buffer.mk text (d :: spans)).sortedSpans = before ++ d :: behind ∧
      (∀ s ∈ before, s.start < d.start) ∧ ∀ s ∈ behind, d.start ≤ s.start := by
  obtain ⟨before, behind, hmore, hless, hbefore⟩ :=
    List.mergeSort_cons Span.start_le_trans Span.start_le_total d spans
  have hsorted := pairwise_sortedSpans ⟨text, d :: spans⟩
  rw [sortedSpans, hmore, List.pairwise_append, List.pairwise_cons] at hsorted
  refine ⟨before, behind, hless, hmore, fun s hs => ?_, hsorted.2.1.1⟩
  simpa using hbefore s hs

end Buffer

/-! ## Faces with a small date -/

/-- A face is another one with a span more, of a kind of its own and in the order of the starts. -/
structure Face.Adds (d : Span) (f g : Face) : Prop where
  text : g.text = f.text
  spoken : g.spoken = f.spoken
  single : d.kind ∉ f.spans.map Span.kind
  spans : ∃ before behind, f.spans = before ++ behind ∧ g.spans = before ++ d :: behind ∧
    (∀ s ∈ before, s.start < d.start) ∧ ∀ s ∈ behind, d.start ≤ s.start

namespace Config

/-- The configuration with another visibility of the date. -/
def withDate (c : Config) (v : DateVisibility) : Config :=
  { c with dateVisibility := v }

/-- The date and the time side by side. -/
def beside (c : Config) (date time : List Char) : List Char :=
  (c.withDate .normal).arrange Face.separator date time

/-- The span over the date beside the time. -/
def dateSpan (c : Config) (date time : List Char) : Span :=
  ⟨.dateEmphasis, c.dateStart time.length, c.dateStart time.length + date.length,
    .resize SpanAction.smallFactor, Nat.le_add_right _ _⟩

theorem composed_normal (c : Config) (date time : List Char) :
    (c.withDate .normal).composed date time = ⟨c.beside date time, []⟩ := rfl

theorem composed_small (c : Config) (date time : List Char) :
    (c.withDate .small).composed date time = ⟨c.beside date time, [c.dateSpan date time]⟩ := by
  rw [composed, beside, withDate]
  cases hp : c.datePosition <;> simp [arrange, withDate, dateSpans, dateSpan, dateStart, hp]

theorem face_of_settled (c : Config) {date time : List Char} {b : Buffer} (spoken : List Char)
    (h : (c.composed date time).settled c.emphasis = b) :
    c.face date time spoken = ⟨b.text, b.sortedSpans, spoken⟩ := by
  rw [face, h]

/-- The span of a date reads the date. -/
theorem run_dateSpan (c : Config) (date time : List Char) :
    (c.dateSpan date time).run (c.beside date time) = date := by
  have hv : (c.withDate .normal).dateVisibility ≠ .none := DateVisibility.noConfusion
  show ((c.beside date time).take (c.dateStart time.length + date.length)).drop
    (c.dateStart time.length) = date
  rw [beside]
  cases hp : c.datePosition with
  | left =>
    rw [dateStart_left hp, arrange_left hv hp, Nat.zero_add, List.append_assoc, List.take_left]
    rfl
  | right =>
    rw [dateStart_right hp, arrange_right hv hp, ← List.length_append, ← List.length_append,
      List.take_length, List.drop_left]

/-- The face with a small date is the one with a date of normal size, with the span of the
date as settling leaves it. -/
theorem face_small (c : Config) (date time spoken : List Char) :
    ∃ d, Face.Adds d ((c.withDate .normal).face date time spoken)
        ((c.withDate .small).face date time spoken) ∧
      ((c.withDate .small).face date time spoken).text =
        Text.kept (c.emphasis.leaves (c.beside date time)) 0 (c.beside date time) ∧
      Span.IsLeft c.emphasis (c.beside date time) (c.dateSpan date time) d := by
  have hsmallText := c.composed_small date time
  have hbounds := (c.withDate .small).inBounds_composed date time
  rw [hsmallText] at hbounds
  have hinside : (c.dateSpan date time).stop ≤ (c.beside date time).length :=
    hbounds _ List.mem_cons_self
  obtain ⟨d, others, hleft, hnormal, hsmall⟩ := Buffer.settled_cons c.emphasis [] hinside
  rw [← c.composed_normal] at hnormal
  rw [← hsmallText] at hsmall
  have hnormalFace := (c.withDate .normal).face_of_settled spoken hnormal
  have hsmallFace := (c.withDate .small).face_of_settled spoken hsmall
  have hwellFormed := Face.wellFormed_face (c.withDate .normal) date time spoken
  rw [hnormalFace] at hwellFormed
  rw [hnormalFace, hsmallFace]
  refine ⟨d, ⟨rfl, rfl, ?_, Buffer.sortedSpans_cons _ d others⟩, rfl, hleft⟩
  rw [hleft.kind]
  exact fun hdate => DateVisibility.noConfusion (hwellFormed.date.1 hdate)

/-- The same is written for a small date as for one of normal size. -/
theorem writeTexts_small (c : Config) (dates : DateWriter) (formats : TimeFormats)
    (instant : Instant) :
    Face.writeTexts dates formats (c.withDate .small) instant =
      Face.writeTexts dates formats (c.withDate .normal) instant := rfl

end Config

/-- A face with a small date is the one with a date of normal size, with one span more. Whatever
the texts hold, either both are refused with one error or there are both. Then they have the
same text, which is what settling leaves of the date and the time side by side, and the same is
read aloud. The spans are the same but for one more for the date. It starts behind what is left
of what stands before the date, and reads what is left of the date: of the text that is written for
it, in the case that is set. -/
theorem renderFace_small_date {σ : Type} (dates : DateWriter) (formats : TimeFormats) (c : Config)
    (instant : Instant) (s t : Session σ) :
    let normal := (renderFace dates formats (c.withDate .normal).layout instant).outcome s
    let small := (renderFace dates formats (c.withDate .small).layout instant).outcome t
    (∃ e, normal = .error e ∧ small = .error e) ∨
      ∃ f g d written time, normal = .ok f ∧ small = .ok g ∧ Face.Adds d f g ∧
        dates instant c.datePattern c.locale = .ok written ∧
        formats.display.write instant = .ok time ∧
        d.kind = .dateEmphasis ∧ d.action = .resize SpanAction.smallFactor ∧
        let date := c.dateCase.shown written
        let keep := c.emphasis.leaves (c.beside date time)
        let first := c.dateStart time.length
        g.text = Text.kept keep 0 (c.beside date time) ∧
          d.start = (Text.kept keep 0 ((c.beside date time).take first)).length ∧
          d.run g.text = Text.kept keep first date := by
  intro normal small
  have hnormal : normal = (Face.writeTexts dates formats (c.withDate .normal) instant).map
      fun t => (c.withDate .normal).face t.date t.time t.spoken := by
    rw [← Face.ofInstant_eq_map, ← renderFace_outcome]
  have hsmall : small = (Face.writeTexts dates formats (c.withDate .normal) instant).map
      fun t => (c.withDate .small).face t.date t.time t.spoken := by
    rw [← c.writeTexts_small, ← Face.ofInstant_eq_map, ← renderFace_outcome]
  cases htexts : Face.writeTexts dates formats (c.withDate .normal) instant with
  | error e =>
    rw [htexts] at hnormal hsmall
    exact .inl ⟨e, hnormal, hsmall⟩
  | ok t =>
    rw [htexts] at hnormal hsmall
    obtain ⟨time, htime, htexts⟩ := of_bind_eq_ok htexts
    obtain ⟨spoken, -, htexts⟩ := of_bind_eq_ok htexts
    obtain ⟨date, hdate, htexts⟩ := of_bind_eq_ok htexts
    obtain rfl := Except.ok.inj htexts
    obtain ⟨d, hadds, htext, hleft⟩ := c.face_small date time spoken
    have hshown : c.layout.writeDate dates instant = .ok date := hdate
    obtain ⟨written, hwritten, rfl⟩ := Config.writeDate_eq_ok_iff.1 hshown
    refine .inr ⟨_, _, d, written, time, hnormal, hsmall, hadds, hwritten, htime, hleft.kind,
      hleft.action, htext, hleft.start, ?_⟩
    rw [htext, hleft.run, c.run_dateSpan]
    rfl

end ClockFace
