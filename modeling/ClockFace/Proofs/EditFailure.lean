import ClockFace.Proofs.BufferEdits

/-! # Edits that fail

A span that is refused is not added, and nothing else happens. A deletion can fail as well: a
range that starts before the text moves the spans in front to offsets below zero, and no span has
such an offset. By then the text has been cut, so that a deletion leaves the same text whether or
not it fails, while the spans stay as they were if it does. A failed deletion changes nothing
exactly if both ends of its range stand for one place of the text.

The ends of a span stay in order wherever it is moved (`shift_mono`), so its start alone decides
whether it is refused.

## Key results

- `shift_lt_zero_iff`: which offsets a deletion moves out of the text
- `shiftSpans_eq_error_iff`: which deletions are refused, and why
- `cutText_eq_self_iff`: which ranges cut nothing out of a text
- `Edit.perform_of_failure?`, `Edit.text_after`: what a failed edit leaves of any buffer
- `after_failed_iff`: the failed edits that change nothing
-/

namespace ClockFace

namespace Buffer

/-! ## Refused spans -/

/-- Why a range cannot be deleted below some spans, if it cannot: it starts before the text, and the
first span whose start is less than the length of the range would start before the text as
well. -/
def refusal? (start stop : Int) (spans : List Span) : Option Failure :=
  if start < 0 then
    (spans.find? fun s => s.start < stop - start).map fun s =>
      .spanOffsets (shift start stop s.start) (shift start stop s.stop)
  else none

section Refusal

variable {start stop : Int}

/-- Offsets stay in order when a range is deleted, also one that starts before the text. -/
theorem shift_mono (start stop : Int) {a b : Nat} (hab : a ≤ b) :
    shift start stop a ≤ shift start stop b := by
  simp only [shift]
  omega

/-- An offset leaves the text if the range starts before the text and is longer than the offset. -/
theorem shift_lt_zero_iff (start stop : Int) (offset : Nat) :
    shift start stop offset < 0 ↔ start < 0 ∧ (offset : Int) < stop - start := by
  simp only [shift]
  omega

/-- A deletion refuses a span if it moves its start out of the text. -/
theorem shiftSpan_of_lt_zero {s : Span} (hs : shift start stop s.start < 0) :
    shiftSpan start stop s =
      .error (.spanOffsets (shift start stop s.start) (shift start stop s.stop)) := by
  rw [shiftSpan, Span.make, dif_neg fun hmake => absurd hmake.1 (Int.not_le.2 hs)]

/-- All other spans are moved. -/
theorem exists_shiftSpan_eq_ok {s : Span} (hs : ¬shift start stop s.start < 0) :
    ∃ moved, shiftSpan start stop s = .ok moved := by
  rw [shiftSpan, Span.make, dif_pos ⟨Int.not_lt.1 hs, shift_mono start stop s.start_le_stop⟩]
  exact ⟨_, rfl⟩

theorem refusal?_cons (start stop : Int) (s : Span) (rest : List Span) :
    refusal? start stop (s :: rest) =
      if shift start stop s.start < 0 then
        some (.spanOffsets (shift start stop s.start) (shift start stop s.stop))
      else refusal? start stop rest := by
  simp only [shift_lt_zero_iff, refusal?]
  by_cases hstart : start < 0
  · by_cases hlt : (s.start : Int) < stop - start <;> simp [hstart, hlt]
  · simp [hstart]

/-- Only a range that is not empty is refused. -/
theorem lt_of_refusal? {spans : List Span} {e : Failure} (h : refusal? start stop spans = some e) :
    start < stop := by
  rw [refusal?] at h
  split at h
  · obtain ⟨s, hfind, -⟩ := Option.map_eq_some_iff.1 h
    have hlt := List.find?_some hfind
    rw [decide_eq_true_eq] at hlt
    omega
  · cases h

/-- Moving spans fails with the first of them that is refused, and only with that. -/
theorem shiftSpans_eq_error_iff (start stop : Int) {spans : List Span} {e : Failure} :
    shiftSpans start stop spans = .error e ↔ refusal? start stop spans = some e := by
  induction spans with
  | nil => simp [shiftSpans, refusal?]
  | cons s rest ih =>
    rw [refusal?_cons, shiftSpans]
    split_ifs with hs
    · rw [shiftSpan_of_lt_zero hs]
      simp
    · -- The span is moved, so that the others decide
      obtain ⟨moved, hmoved⟩ := exists_shiftSpan_eq_ok hs
      rw [← ih, hmoved]
      cases shiftSpans start stop rest <;> simp

end Refusal

/-! ## Cuts that cut nothing -/

theorem place_le (length : Nat) (offset : Int) : place length offset ≤ length := by
  unfold place
  split <;> omega

/-- A text is cut into itself exactly if both ends of the range stand for one place of it. -/
theorem cutText_eq_self_iff (start stop : Int) (text : List Char) :
    cutText start stop text = text ↔ place text.length start = place text.length stop := by
  refine ⟨fun h => ?_, fun h => ?_⟩
  · -- Between two places, characters go or come twice, and the length tells
    have hlength := congrArg List.length h
    have hstart := place_le text.length start
    have hstop := place_le text.length stop
    rw [cutText, List.length_append, List.length_take, List.length_drop] at hlength
    omega
  · rw [cutText, h, List.take_append_drop]

/-! ## Failed edits -/

namespace Edit

/-- Why an edit of a buffer fails, if it does. -/
def failure? (b : Buffer) : Edit → Option Failure
  | add _ start stop _ =>
    if 0 ≤ start ∧ start ≤ stop then none else some (.spanOffsets start stop)
  | delete start stop => refusal? start stop b.spans

/-- What an edit leaves of a text, whether or not it fails. -/
def cut : Edit → List Char → List Char
  | add .., text => text
  | delete start stop, text => if start < stop then cutText start stop text else text

/-- The edit leaves a text alone when it fails: it adds a span, or the two ends of its range stand
for one place of the text. -/
def Spares (text : List Char) : Edit → Prop
  | add .. => True
  | delete start stop => place text.length start = place text.length stop

instance (text : List Char) : DecidablePred (Spares text)
  | add .. => .isTrue trivial
  | delete start stop =>
    inferInstanceAs (Decidable (place text.length start = place text.length stop))

/-- A failed edit leaves the spans, and of the text what it leaves if it does not fail. -/
theorem perform_of_failure? {b : Buffer} {e : Edit} {f : Failure} (h : e.failure? b = some f) :
    e.perform.run b = (.error f, ⟨e.cut b.text, b.spans⟩) := by
  cases e with
  | add kind start stop action =>
    rw [failure?] at h
    split at h
    · cases h
    · next hoffsets =>
      obtain rfl := Option.some.inj h
      rw [perform, addSpan_run_eq, Span.make, dif_neg hoffsets]
      rfl
  | delete start stop =>
    have hlt : start < stop := lt_of_refusal? h
    rw [perform, delete_run_of_lt hlt, (shiftSpans_eq_error_iff start stop).2 h, cut, if_pos hlt]

/-- An edit that has nothing to fail with does not fail. -/
theorem perform_of_failure?_eq_none {b : Buffer} {e : Edit} (h : e.failure? b = none) :
    ∃ spans, e.perform.run b = (.ok (), ⟨e.cut b.text, spans⟩) := by
  cases e with
  | add kind start stop action =>
    rw [failure?] at h
    split at h
    · next hoffsets =>
      rw [perform, addSpan_run_eq, Span.make, dif_pos hoffsets]
      exact ⟨_, rfl⟩
    · cases h
  | delete start stop =>
    rw [cut]
    split_ifs with hlt
    · -- Had moving the spans failed, there would be something to fail with
      rw [perform, delete_run_of_lt hlt]
      cases hmoved : shiftSpans start stop b.spans with
      | ok moved => exact ⟨moved, rfl⟩
      | error e =>
        rw [failure?, (shiftSpans_eq_error_iff start stop).1 hmoved] at h
        cases h
    · exact ⟨b.spans, perform_delete_nothing (Int.not_lt.1 hlt) b⟩

/-- An edit fails with what it has to fail with, and not otherwise. -/
theorem perform_eq_error_iff {b : Buffer} {e : Edit} {f : Failure} :
    (e.perform.run b).1 = .error f ↔ e.failure? b = some f := by
  cases h : e.failure? b with
  | some g => simp [perform_of_failure? h]
  | none =>
    obtain ⟨spans, hrun⟩ := perform_of_failure?_eq_none h
    simp [hrun]

/-- The text after an edit does not tell whether the edit has failed. -/
theorem text_after (e : Edit) (b : Buffer) : (e.after b).text = e.cut b.text := by
  cases h : e.failure? b with
  | some f => rw [after, perform_of_failure? h]
  | none =>
    obtain ⟨spans, hrun⟩ := perform_of_failure?_eq_none h
    rw [after, hrun]

/-- The text that a failed edit leaves is the text that it finds exactly if it spares it. -/
theorem cut_eq_self_iff {b : Buffer} {e : Edit} {f : Failure} (h : e.failure? b = some f) :
    e.cut b.text = b.text ↔ e.Spares b.text := by
  cases e with
  | add kind start stop action => exact iff_of_true rfl trivial
  | delete start stop =>
    rw [cut, if_pos (lt_of_refusal? h)]
    exact cutText_eq_self_iff start stop b.text

end Edit

/-- The buffer that a text becomes by edits, also by those that fail. -/
def edited (text : List Char) (edits : List Edit) : Buffer :=
  edits.foldl (fun b e => e.after b) (ofText text)

/-- The failed edits that change nothing: all that add a span, and the deletions whose range has
both ends at one place of the text.

Whatever edits a buffer comes from, failed ones among them, an edit of it fails exactly if it has
something to fail with (`Edit.failure?`): offsets of a span to add that are out of order or below
zero, or a span that a range from before the text moves out of the text. The text is afterwards
what the edit leaves of it (`Edit.cut`), whether or not it fails, and where it fails the spans are
as they were. -/
theorem after_failed_iff (text : List Char) (edits : List Edit) (e : Edit) :
    let b := edited text edits
    let c := e.after b
    (∀ f, (e.perform.run b).1 = .error f ↔ e.failure? b = some f) ∧
      c.text = e.cut b.text ∧
      ∀ f, (e.perform.run b).1 = .error f → c.spans = b.spans ∧ (c = b ↔ e.Spares b.text) := by
  intro b c
  refine ⟨fun f => Edit.perform_eq_error_iff, e.text_after b, fun f hf => ?_⟩
  have hfailed : e.failure? b = some f := Edit.perform_eq_error_iff.1 hf
  have hleft : c = ⟨e.cut b.text, b.spans⟩ := congrArg Prod.snd (Edit.perform_of_failure? hfailed)
  -- The spans are the same, so that the text decides
  rw [hleft, ← Edit.cut_eq_self_iff hfailed]
  refine ⟨rfl, congrArg Buffer.text, fun htext => ?_⟩
  rw [htext]

/-- A buffer that has refused a span and has failed to delete a range in front of the text, and then
a range from the third last place of the text to its fourth, which are one. The deletion fails and
changes nothing. -/
theorem after_failed_iff_place :
    let small := SpanAction.resize SpanAction.smallFactor
    let edits : List Edit :=
      [.add .amPmEmphasis 5 7 small, .add .dateEmphasis 2 1 .delete, .delete (-20) (-7)]
    let b := edited "3:04 PM".toList edits
    let e : Edit := .delete (-3) 4
    (e.perform.run b).1 = .error (.spanOffsets (-2) 0) ∧ e.after b = b := by
  intro small edits b e
  have hfailed : (e.perform.run b).1 = .error (.spanOffsets (-2) 0) := rfl
  exact ⟨hfailed, ((after_failed_iff _ edits e).2.2 _ hfailed).2.2 (by decide)⟩

/-- The two characters before the last are deleted, by offsets from the end, below a span over the
whole text. The deletion fails and the text is cut, so that the span sticks out of it. -/
theorem after_failed_ne :
    let edits : List Edit := [.add .amPmEmphasis 0 7 (.resize SpanAction.smallFactor)]
    let b := edited "3:04 PM".toList edits
    let e : Edit := .delete (-3) (-1)
    let c := e.after b
    (e.perform.run b).1 = .error (.spanOffsets (-2) 5) ∧
      b.text = "3:04 PM".toList ∧ c.text = "3:04M".toList ∧ c.spans = b.spans ∧
      (∃ s ∈ c.spans, c.text.length < s.stop) ∧ c ≠ b :=
  ⟨rfl, rfl, rfl, rfl, by decide, by decide⟩

end Buffer

end ClockFace
