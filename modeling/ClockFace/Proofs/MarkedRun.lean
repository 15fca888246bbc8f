import ClockFace.Face.Basic
import ClockFace.Proofs.BufferDelete

/-! # The marked run of a text

`Face.markedRun?` looks for the first opening and the first closing marker. `MarkedText`
is a text written out around its marked run, with what the search needs to find just this
run; every text either has no marked run or is one of these (`markedRun?_eq_none_or`).

`Face.settleRun` never fails for a checked emphasis. `Buffer.settled` says what it makes
of a buffer, and `settled_text` says it on the parts of a marked text.

## Key results

- `markedRun?_append_eq_none_iff`: when two texts make no marked run together
- `Span.settled_of_le`, `Span.settled_of_gt`: where spans before and behind the run go
- `settleRun_eq`: settling a buffer, in closed form
- `settledText_eq_self_iff`: settling changes a text iff it has a marked run
-/

namespace ClockFace

namespace Marker

/-- The character is one of the two markers. -/
def isMarker (c : Char) : Bool :=
  c == opening || c == closing

/-- The markers of a text, in their order. -/
def among (text : List Char) : List Char :=
  text.filter isMarker

/-- The text holds no marker. -/
def Free (text : List Char) : Prop :=
  opening ∉ text ∧ closing ∉ text

instance (text : List Char) : Decidable (Free text) :=
  inferInstanceAs (Decidable (_ ∧ _))

theorem opening_ne_closing : opening ≠ closing := by decide

theorem mem_among {c : Char} {text : List Char} :
    c ∈ among text ↔ c ∈ text ∧ (c = opening ∨ c = closing) := by
  simp [among, isMarker]

@[simp] theorem among_append (a b : List Char) : among (a ++ b) = among a ++ among b := by
  simp [among]

@[simp] theorem among_nil : among [] = [] := rfl

theorem among_eq_nil_iff {text : List Char} : among text = [] ↔ Free text := by
  simp only [List.eq_nil_iff_forall_not_mem, mem_among, Free]
  constructor
  · intro h
    exact ⟨fun ho => h opening ⟨ho, .inl rfl⟩, fun hc => h closing ⟨hc, .inr rfl⟩⟩
  · rintro ⟨ho, hc⟩ c ⟨hmem, rfl | rfl⟩
    · exact ho hmem
    · exact hc hmem

@[simp] theorem free_append {a b : List Char} : Free (a ++ b) ↔ Free a ∧ Free b := by
  rw [← among_eq_nil_iff, among_append, List.append_eq_nil_iff, among_eq_nil_iff, among_eq_nil_iff]

end Marker

open Marker

/-- A text around its marked run: no marker stands before the opening one, and no closing
one inside the run. -/
structure MarkedText where
  before : List Char
  run : List Char
  rest : List Char
  before_free : Free before
  run_unclosed : closing ∉ run

namespace MarkedText

/-- The text itself. -/
def text (m : MarkedText) : List Char :=
  m.before ++ opening :: (m.run ++ closing :: m.rest)

/-- The offset of the opening marker. -/
def start (m : MarkedText) : Nat :=
  m.before.length

/-- The offset of the closing marker. -/
def stop (m : MarkedText) : Nat :=
  m.before.length + 1 + m.run.length

theorem start_lt_stop (m : MarkedText) : m.start < m.stop := by
  unfold start stop
  omega

/-- The text before the closing marker of the run. -/
def lead (m : MarkedText) : List Char :=
  m.before ++ opening :: m.run

theorem text_eq_lead (m : MarkedText) : m.text = m.lead ++ closing :: m.rest := by
  rw [text, lead, List.append_assoc, List.cons_append]

theorem length_lead (m : MarkedText) : m.lead.length = m.stop := by
  rw [lead, stop, List.length_append, List.length_cons]
  omega

theorem closing_not_mem_lead (m : MarkedText) : closing ∉ m.lead := by
  rw [lead, List.mem_append, List.mem_cons, not_or, not_or]
  exact ⟨m.before_free.2, opening_ne_closing.symm, m.run_unclosed⟩

end MarkedText

namespace Face

/-- The search for a character passes over a text without it. -/
theorem find?_append_cons {c : Char} {before : List Char} (h : c ∉ before) (rest : List Char) :
    find? c (before ++ c :: rest) = some before.length := by
  have hnone : before.findIdx? (· == c) = none := by
    rw [List.findIdx?_eq_none_iff]
    intro x hx
    simp only [beq_eq_false_iff_ne]
    rintro rfl
    exact h hx
  rw [find?, List.findIdx?_append, hnone, List.findIdx?_cons, if_pos (beq_self_eq_true c)]
  simp

theorem find?_eq_none {c : Char} {text : List Char} (h : c ∉ text) : find? c text = none := by
  rw [find?, List.findIdx?_eq_none_iff]
  intro x hx
  simp only [beq_eq_false_iff_ne]
  rintro rfl
  exact h hx

/-- The search finds the run that a marked text is written around. -/
theorem markedRun?_text (m : MarkedText) : markedRun? m.text = some (m.start, m.stop) := by
  have hopen : find? opening m.text = some m.start := find?_append_cons m.before_free.1 _
  have hclose : find? closing m.text = some m.stop := by
    rw [m.text_eq_lead, find?_append_cons m.closing_not_mem_lead, m.length_lead]
  rw [markedRun?, hopen, hclose]
  exact if_pos m.start_lt_stop

theorem markedRun?_of_closing_not_mem {text : List Char} (h : closing ∉ text) :
    markedRun? text = none := by
  rw [markedRun?, find?_eq_none h]
  cases find? opening text <;> rfl

/-- Only the opening markers before the first closing one count. -/
theorem markedRun?_closing_eq_none_iff {lead : List Char} (hclose : closing ∉ lead)
    (rest : List Char) : markedRun? (lead ++ closing :: rest) = none ↔ opening ∉ lead := by
  constructor
  · intro hnone hopen
    obtain ⟨before, run, rfl, hbefore⟩ := List.eq_append_cons_of_mem hopen
    simp only [List.mem_append, List.mem_cons, not_or] at hclose
    have hrun := markedRun?_text ⟨before, run, rest, ⟨hbefore, hclose.1⟩, hclose.2.2⟩
    rw [MarkedText.text, ← List.cons_append, ← List.append_assoc, hnone] at hrun
    cases hrun
  · -- An opening marker behind the closing one does not count
    intro hopen
    rw [markedRun?, find?_append_cons hclose]
    cases hfind : find? opening (lead ++ closing :: rest) with
    | none => rfl
    | some i =>
      have hnone := find?_eq_none hopen
      rw [find?] at hnone
      rw [find?, List.findIdx?_append, hnone, Option.none_or] at hfind
      obtain ⟨k, -, rfl⟩ := Option.map_eq_some_iff.1 hfind
      exact if_neg (by omega)

/-- A text has no marked run, or it is written around one. -/
theorem markedRun?_eq_none_or (text : List Char) :
    markedRun? text = none ∨ ∃ m : MarkedText, m.text = text := by
  by_cases hclose : closing ∈ text
  · -- Cut the text at its first closing marker, and what stands before at the first opening one
    obtain ⟨lead, rest, rfl, hlead⟩ := List.eq_append_cons_of_mem hclose
    by_cases hopen : opening ∈ lead
    · obtain ⟨before, run, rfl, hbefore⟩ := List.eq_append_cons_of_mem hopen
      simp only [List.mem_append, List.mem_cons, not_or] at hlead
      refine .inr ⟨⟨before, run, rest, ⟨hbefore, hlead.1⟩, hlead.2.2⟩, ?_⟩
      simp [MarkedText.text]
    · exact .inl ((markedRun?_closing_eq_none_iff hlead rest).2 hopen)
  · exact .inl (markedRun?_of_closing_not_mem hclose)

/-- Two texts make no marked run together if the first has none, and does not open one
that the second closes, and the second has none unless a closing marker of the first comes
before it. -/
theorem markedRun?_append_eq_none_iff (a b : List Char) :
    markedRun? (a ++ b) = none ↔
      markedRun? a = none ∧
        (closing ∉ a → (opening ∈ a → closing ∉ b) ∧ (opening ∉ a → markedRun? b = none)) := by
  by_cases ha : closing ∈ a
  · -- The second text lies behind the first closing marker, and does not count
    obtain ⟨lead, rest, rfl, hlead⟩ := List.eq_append_cons_of_mem ha
    rw [List.append_assoc, List.cons_append, markedRun?_closing_eq_none_iff hlead,
      markedRun?_closing_eq_none_iff hlead]
    exact ⟨fun h => ⟨h, fun hnot => absurd ha hnot⟩, And.left⟩
  · have hnone := markedRun?_of_closing_not_mem ha
    by_cases hb : closing ∈ b
    · -- All of the first text counts, and the second up to its first closing marker
      obtain ⟨lead, rest, rfl, hlead⟩ := List.eq_append_cons_of_mem hb
      have hboth : closing ∉ a ++ lead := by simp [ha, hlead]
      rw [← List.append_assoc, markedRun?_closing_eq_none_iff hboth,
        markedRun?_closing_eq_none_iff hlead]
      by_cases hopen : opening ∈ a <;> simp [hnone, ha, hopen]
    · have hboth : closing ∉ a ++ b := by simp [ha, hb]
      simp [markedRun?_of_closing_not_mem hboth, markedRun?_of_closing_not_mem hb, hnone, hb]

end Face

/-! ## Settling the marked run -/

/-- What an emphasis leaves of the marked run. -/
def Emphasis.runText (e : Emphasis) (run : List Char) : List Char :=
  match e with
  | .none => []
  | .small | .normal => run

/-- Where a span lies once the run marked at `start` and `stop` is settled. -/
def Span.settled (e : Emphasis) (start stop : Nat) (s : Span) : Span :=
  match e with
  | .none => s.moved start (stop + 1)
  | .small | .normal => (s.moved stop (stop + 1)).moved start (start + 1)

/-- How many characters go when the run marked at `start` and `stop` is settled. -/
def Emphasis.removed (e : Emphasis) (start stop : Nat) : Nat :=
  match e with
  | .none => stop + 1 - start
  | .small | .normal => 2

/-- A span before the marked run stays where it is. -/
theorem Span.settled_of_le (e : Emphasis) {start stop : Nat} {s : Span} (h : s.stop ≤ start)
    (hlt : start < stop) : s.settled e start stop = s := by
  have hopen : s.moved start (start + 1) = s := Span.moved_of_le h (Nat.le_succ start)
  have hclose : s.moved stop (stop + 1) = s :=
    Span.moved_of_le (Nat.le_trans h (Nat.le_of_lt hlt)) (Nat.le_succ stop)
  cases e with
  | none => exact Span.moved_of_le h (Nat.le_succ_of_le (Nat.le_of_lt hlt))
  | small => rw [Span.settled, hclose, hopen]
  | normal => rw [Span.settled, hclose, hopen]

/-- A span behind both markers moves forward by one for each of them. -/
theorem Span.moved_moved_of_gt {start stop : Nat} {s : Span} (h : stop < s.start)
    (hlt : start < stop) :
    (s.moved stop (stop + 1)).moved start (start + 1) =
      ⟨s.kind, s.start - 2, s.stop - 2, s.action, Nat.sub_le_sub_right s.start_le_stop 2⟩ := by
  -- The closing marker goes first; the opening one still lies before the span that moved
  have hopen : start + 1 ≤ s.start - (stop + 1 - stop) := by omega
  rw [Span.moved_of_ge h (Nat.le_succ stop), Span.moved_of_ge hopen (Nat.le_succ start)]
  simp only [Nat.succ_eq_add_one, Nat.add_sub_cancel_left, Nat.sub_sub, Nat.reduceAdd]

/-- A span behind the marked run moves forward by what is removed. -/
theorem Span.settled_of_gt (e : Emphasis) {start stop : Nat} {s : Span} (h : stop < s.start)
    (hlt : start < stop) :
    s.settled e start stop =
      ⟨s.kind, s.start - e.removed start stop, s.stop - e.removed start stop, s.action,
        Nat.sub_le_sub_right s.start_le_stop _⟩ := by
  cases e with
  | none => exact Span.moved_of_ge h (Nat.le_succ_of_le (Nat.le_of_lt hlt))
  | small => exact Span.moved_moved_of_gt h hlt
  | normal => exact Span.moved_moved_of_gt h hlt

/-- The span that an emphasis puts on a run of so many characters. -/
def Emphasis.runSpans (e : Emphasis) (start length : Nat) : List Span :=
  match e with
  | .small => [⟨.amPmEmphasis, start, start + length, .resize SpanAction.smallFactor, by omega⟩]
  | .none | .normal => []

/-- The buffer once its marked run is settled. -/
def Buffer.settled (e : Emphasis) (b : Buffer) : Buffer :=
  match Face.markedRun? b.text with
  | none => b
  | some (start, stop) =>
    { text := b.text.take start ++
        e.runText ((b.text.drop (start + 1)).take (stop - (start + 1))) ++ b.text.drop (stop + 1)
      spans := b.spans.map (Span.settled e start stop) ++ e.runSpans start (stop - (start + 1)) }

namespace MarkedText

/-- The text once the run is settled. -/
def shown (e : Emphasis) (m : MarkedText) : List Char :=
  m.before ++ e.runText m.run ++ m.rest

theorem take_start (m : MarkedText) : m.text.take m.start = m.before := by
  rw [text, start, List.take_left]

theorem drop_start (m : MarkedText) :
    m.text.drop (m.start + 1) = m.run ++ closing :: m.rest := by
  rw [text, start, ← List.drop_drop, List.drop_left]
  rfl

theorem run_length (m : MarkedText) : m.stop - (m.start + 1) = m.run.length := by
  simp only [stop, start]
  omega

theorem drop_stop (m : MarkedText) : m.text.drop (m.stop + 1) = m.rest := by
  have hstop : m.stop + 1 = (m.start + 1) + (m.run.length + 1) := by
    simp only [stop, start]
    omega
  rw [hstop, ← List.drop_drop, drop_start, ← List.drop_drop, List.drop_left]
  rfl

end MarkedText

namespace Buffer

theorem settled_of_none {e : Emphasis} {b : Buffer} (h : Face.markedRun? b.text = none) :
    b.settled e = b := by
  rw [settled, h]

/-- Settling a marked text. -/
theorem settled_text (e : Emphasis) (m : MarkedText) (spans : List Span) :
    settled e ⟨m.text, spans⟩ =
      ⟨m.shown e,
        spans.map (Span.settled e m.start m.stop) ++ e.runSpans m.start m.run.length⟩ := by
  simp only [settled, Face.markedRun?_text, m.take_start, m.drop_start, m.drop_stop, m.run_length,
    List.take_left, MarkedText.shown]

end Buffer

/-! ## What settling leaves of a text -/

/-- A text once its marked run is settled. -/
def Emphasis.settledText (e : Emphasis) (text : List Char) : List Char :=
  ((Buffer.ofText text).settled e).text

/-- Spans do not matter for what settling leaves of the text. -/
theorem Buffer.text_settled (e : Emphasis) (b : Buffer) :
    (b.settled e).text = e.settledText b.text := by
  simp only [Emphasis.settledText, Buffer.settled, Buffer.ofText]
  cases Face.markedRun? b.text <;> rfl

theorem Face.settledText_of_none (e : Emphasis) {text : List Char}
    (h : Face.markedRun? text = none) : e.settledText text = text := by
  have hbuffer : Face.markedRun? (Buffer.ofText text).text = none := h
  rw [Emphasis.settledText, Buffer.settled_of_none hbuffer]
  rfl

/-- Without markers, nothing is settled. -/
theorem Face.settledText_of_free (e : Emphasis) {text : List Char} (h : Free text) :
    e.settledText text = text :=
  settledText_of_none e (markedRun?_of_closing_not_mem h.2)

theorem Face.settledText_text (e : Emphasis) (m : MarkedText) :
    e.settledText m.text = m.shown e :=
  congrArg Buffer.text (Buffer.settled_text e m [])

namespace MarkedText

/-- What settling takes from a marked text. -/
theorem length_shown (e : Emphasis) (m : MarkedText) :
    (m.shown e).length + e.removed m.start m.stop = m.text.length := by
  rw [shown, text, start, stop]
  cases e <;>
    simp only [Emphasis.runText, Emphasis.removed, List.length_append, List.length_cons,
      List.length_nil] <;>
    omega

theorem removed_pos (e : Emphasis) (m : MarkedText) : 0 < e.removed m.start m.stop := by
  have hlt := m.start_lt_stop
  cases e <;> simp only [Emphasis.removed] <;> omega

end MarkedText

/-- Settling leaves a text as it is only if there is nothing to settle. -/
theorem Face.settledText_eq_self_iff (e : Emphasis) (text : List Char) :
    e.settledText text = text ↔ Face.markedRun? text = none := by
  refine ⟨fun h => ?_, settledText_of_none e⟩
  obtain hnone | ⟨m, rfl⟩ := Face.markedRun?_eq_none_or text
  · exact hnone
  · have hlength := m.length_shown e
    have hpos := m.removed_pos e
    rw [settledText_text] at h
    rw [h] at hlength
    omega

namespace Face

theorem cut_run (m : MarkedText) :
    Buffer.cutText m.start (m.stop + 1 : Nat) m.text = m.before ++ m.rest := by
  have h := Buffer.cutText_append m.before (opening :: m.run ++ [closing]) m.rest
  have hstop : m.before.length + (opening :: m.run ++ [closing]).length = m.stop + 1 := by
    simp only [List.length_append, List.length_cons, List.length_nil, MarkedText.stop]
    omega
  rw [hstop] at h
  simpa [MarkedText.text, MarkedText.start] using h

theorem cut_closing (m : MarkedText) :
    Buffer.cutText m.stop (m.stop + 1 : Nat) m.text =
      m.before ++ opening :: (m.run ++ m.rest) := by
  have h := Buffer.cutText_append m.lead [closing] m.rest
  rw [m.length_lead] at h
  simpa [m.text_eq_lead, MarkedText.lead] using h

theorem cut_opening (m : MarkedText) :
    Buffer.cutText m.start (m.start + 1 : Nat) (m.before ++ opening :: (m.run ++ m.rest)) =
      m.before ++ (m.run ++ m.rest) := by
  have h := Buffer.cutText_append m.before [opening] (m.run ++ m.rest)
  simpa [MarkedText.start] using h

/-- Deleting both markers of a marked text, the closing one first. -/
theorem delete_markers (m : MarkedText) (spans : List Span) :
    (do Buffer.delete m.stop (m.stop + 1); Buffer.delete m.start (m.start + 1) :
        ExceptT Failure (StateM Buffer) Unit).run ⟨m.text, spans⟩ =
      (.ok (), ⟨m.before ++ (m.run ++ m.rest),
        spans.map fun s => (s.moved m.stop (m.stop + 1)).moved m.start (m.start + 1)⟩) := by
  have hclose := Buffer.delete_run (Nat.lt_succ_self m.stop) ⟨m.text, spans⟩
  have hopen := Buffer.delete_run (Nat.lt_succ_self m.start)
    ⟨m.before ++ opening :: (m.run ++ m.rest), spans.map (Span.moved m.stop (m.stop + 1))⟩
  rw [cut_closing] at hclose
  -- The opening marker still stands where it stood, as the closing one was behind it
  rw [cut_opening, List.map_map] at hopen
  rw [run_bind]
  simp only [Nat.succ_eq_add_one, Int.natCast_add, Int.natCast_one] at hclose hopen
  rw [hclose]
  exact hopen

/-- The span of a run stands on the run's characters once the markers around it are gone. -/
theorem settled_runSpan (m : MarkedText) (action : SpanAction)
    (h : m.start + 1 ≤ m.stop) :
    (Span.settled .small m.start m.stop ⟨.amPmEmphasis, m.start + 1, m.stop, action, h⟩) =
      ⟨.amPmEmphasis, m.start, m.start + m.run.length, action, by omega⟩ := by
  have hrun := m.run_length
  simp only [Span.settled, Span.moved, staying]
  congr 1 <;> omega

/-- Showing the run of a marked text settles it. -/
theorem showRun_text {l : Layout} {e : Emphasis} (hl : l.emphasis = .known e) (m : MarkedText)
    (spans : List Span) :
    (showRun l m.start m.stop).run ⟨m.text, spans⟩ =
      (.ok (), Buffer.settled e ⟨m.text, spans⟩) := by
  have hlt := m.start_lt_stop
  rw [Buffer.settled_text, showRun, hl]
  cases e with
  | none =>
    -- The run goes with its markers, in one deletion
    have hrun := Buffer.delete_run (Nat.lt_succ_of_lt hlt) ⟨m.text, spans⟩
    rw [cut_run] at hrun
    simp only [Nat.succ_eq_add_one, Int.natCast_add, Int.natCast_one] at hrun
    rw [hrun, MarkedText.shown, Emphasis.runText, Emphasis.runSpans, List.append_nil,
      List.append_nil]
    rfl
  | small =>
    have hadd := Buffer.addSpan_run .amPmEmphasis hlt (.resize SpanAction.smallFactor)
      ⟨m.text, spans⟩
    simp only [Nat.succ_eq_add_one, Int.natCast_add, Int.natCast_one] at hadd
    simp only
    rw [run_bind, hadd]
    simp only
    rw [delete_markers, List.map_append, List.map_singleton]
    -- The span that was added moves with the others, onto the characters of the run
    have hspan := settled_runSpan m (.resize SpanAction.smallFactor) hlt
    simp only [Span.settled] at hspan
    rw [hspan, MarkedText.shown, Emphasis.runText, Emphasis.runSpans, List.append_assoc]
    rfl
  | normal =>
    simp only
    rw [delete_markers, MarkedText.shown, Emphasis.runText, Emphasis.runSpans, List.append_nil,
      List.append_assoc]
    rfl

/-- Settling a buffer for a checked emphasis never fails. -/
theorem settleRun_eq {l : Layout} {e : Emphasis} (hl : l.emphasis = .known e) (b : Buffer) :
    settleRun l b = .ok (b.settled e) := by
  obtain ⟨text, spans⟩ := b
  obtain hnone | ⟨m, rfl⟩ := markedRun?_eq_none_or text
  · rw [Buffer.settled_of_none hnone, settleRun, hnone]
  · simp only [settleRun, markedRun?_text, showRun_text hl]

end Face

end ClockFace
