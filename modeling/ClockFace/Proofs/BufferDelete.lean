import ClockFace.Face.Buffer
import ClockFace.Proofs.AttemptRun

/-! # Deleting a run of characters

What `Buffer.delete` does when the run lies behind the start of the text: the characters
go, and every offset becomes the number of characters before it that stay (`staying`).
Offsets stay in order, so no span is refused and the deletion does not fail.

## Key results

- `delete_run_of_lt`, `addSpan_run_eq`: any deletion and any span, in the order of their steps
- `delete_run`: the buffer after a deletion, in closed form
- `cutText_append`: cutting the middle out of a text of three parts
- `Span.moved_of_le`, `Span.moved_of_ge`: where spans before and behind the run go
-/

namespace ClockFace

/-- How many of the first `offset` characters of a text stay when those from `start` until before
`stop` are deleted. -/
def staying (start stop offset : Nat) : Nat :=
  min offset start + (offset - stop)

theorem staying_mono (start stop : Nat) {a b : Nat} (h : a ≤ b) :
    staying start stop a ≤ staying start stop b := by
  unfold staying
  omega

/-- Offsets up to the start of the run stay where they are. -/
theorem staying_of_le {start stop offset : Nat} (h : offset ≤ start) (h' : start ≤ stop) :
    staying start stop offset = offset := by
  unfold staying
  omega

/-- Offsets from the end of the run on move forward by its length. -/
theorem staying_of_ge {start stop offset : Nat} (h : stop ≤ offset) (h' : start ≤ stop) :
    staying start stop offset = offset - (stop - start) := by
  unfold staying
  omega

/-- The span once the characters from `start` until before `stop` are deleted. -/
def Span.moved (start stop : Nat) (s : Span) : Span where
  kind := s.kind
  start := staying start stop s.start
  stop := staying start stop s.stop
  action := s.action
  start_le_stop := staying_mono start stop s.start_le_stop

/-- A span before the run stays where it is. -/
theorem Span.moved_of_le {start stop : Nat} {s : Span} (h : s.stop ≤ start) (h' : start ≤ stop) :
    s.moved start stop = s := by
  have hstart := staying_of_le (Nat.le_trans s.start_le_stop h) h'
  have hstop := staying_of_le h h'
  obtain ⟨kind, first, last, action, hspan⟩ := s
  rw [moved, Span.mk.injEq]
  exact ⟨rfl, hstart, hstop, rfl⟩

/-- A span behind the run moves forward by its length. -/
theorem Span.moved_of_ge {start stop : Nat} {s : Span} (h : stop ≤ s.start) (h' : start ≤ stop) :
    s.moved start stop =
      ⟨s.kind, s.start - (stop - start), s.stop - (stop - start), s.action,
        Nat.sub_le_sub_right s.start_le_stop _⟩ := by
  rw [moved, Span.mk.injEq]
  exact ⟨rfl, staying_of_ge h h', staying_of_ge (Nat.le_trans h s.start_le_stop) h', rfl⟩

namespace Buffer

theorem shift_natCast {start stop : Nat} (h : start ≤ stop) (offset : Nat) :
    shift start stop offset = (staying start stop offset : Nat) := by
  unfold shift staying
  -- The offset lies behind the run, before it, or inside
  split
  · omega
  · split <;> omega

theorem shiftSpan_natCast {start stop : Nat} (h : start ≤ stop) (s : Span) :
    shiftSpan start stop s = .ok (s.moved start stop) := by
  rw [shiftSpan, shift_natCast h, shift_natCast h,
    Span.make_natCast _ _ _ _ (staying_mono start stop s.start_le_stop)]
  rfl

/-- No span is refused when a run behind the start of the text is deleted. -/
theorem shiftSpans_natCast {start stop : Nat} (h : start ≤ stop) (spans : List Span) :
    shiftSpans start stop spans = .ok (spans.map (Span.moved start stop)) := by
  induction spans with
  | nil => rfl
  | cons s rest ih => simp only [shiftSpans, shiftSpan_natCast h, ih, List.map_cons]

theorem place_natCast (length n : Nat) : place length n = min n length := by
  rw [place, if_neg (by omega)]
  rfl

theorem cutText_natCast (start stop : Nat) (text : List Char) :
    cutText start stop text = text.take start ++ text.drop stop := by
  -- An offset behind the end of the text is the end
  have htake : text.take (min start text.length) = text.take start := by
    rw [List.take_eq_take_iff]; omega
  have hdrop : text.drop (min stop text.length) = text.drop stop := by
    rw [List.drop_eq_drop_iff]; omega
  rw [cutText, place_natCast, place_natCast, htake, hdrop]

/-- Cutting the middle part out of a text leaves the two others. -/
theorem cutText_append (before run rest : List Char) :
    cutText before.length (before.length + run.length : Nat) (before ++ (run ++ rest)) =
      before ++ rest := by
  rw [cutText_natCast, List.take_left, ← List.drop_drop, List.drop_left, List.drop_left]

/-- Deleting a range that is not empty. The text is cut first, and it stays cut where a span is
refused. -/
theorem delete_run_of_lt {start stop : Int} (h : start < stop) (b : Buffer) :
    (delete start stop).run b =
      match shiftSpans start stop b.spans with
      | .ok moved => (.ok (), ⟨cutText start stop b.text, moved⟩)
      | .error e => (.error e, ⟨cutText start stop b.text, b.spans⟩) := by
  have hrun : ¬(stop - start ≤ 0) := by omega
  rw [delete, if_neg hrun, run_bind]
  -- The spans are read off the buffer with the cut text, and then moved
  show ((get >>= _ : ExceptT Failure (StateM Buffer) Unit)).run
    ⟨cutText start stop b.text, b.spans⟩ = _
  rw [run_bind]
  show ((ExceptT.mk (pure (shiftSpans start stop b.spans)) >>= _ :
    ExceptT Failure (StateM Buffer) Unit)).run ⟨cutText start stop b.text, b.spans⟩ = _
  rw [run_bind]
  cases shiftSpans start stop b.spans <;> rfl

/-- Deleting a run that is not empty: its characters go and the spans move. -/
theorem delete_run {start stop : Nat} (h : start < stop) (b : Buffer) :
    (delete start stop).run b =
      (.ok (), ⟨cutText start stop b.text, b.spans.map (Span.moved start stop)⟩) := by
  rw [delete_run_of_lt (Int.ofNat_lt.2 h), shiftSpans_natCast (Nat.le_of_lt h)]

/-- Adding a span. A span that is refused leaves the buffer as it was. -/
theorem addSpan_run_eq (kind : SpanKind) (start stop : Int) (action : SpanAction) (b : Buffer) :
    (addSpan kind start stop action).run b =
      match Span.make kind start stop action with
      | .ok s => (.ok (), ⟨b.text, b.spans ++ [s]⟩)
      | .error e => (.error e, b) := by
  rw [addSpan, run_bind]
  cases Span.make kind start stop action <;> rfl

/-- Adding a span whose offsets are in order. -/
theorem addSpan_run (kind : SpanKind) {start stop : Nat} (h : start ≤ stop) (action : SpanAction)
    (b : Buffer) :
    (addSpan kind start stop action).run b =
      (.ok (), ⟨b.text, b.spans ++ [⟨kind, start, stop, action, h⟩]⟩) := by
  rw [addSpan_run_eq, Span.make_natCast _ _ _ _ h]

end Buffer

end ClockFace
