import ClockFace.Proofs.FaceClosed

/-! # The spans of a face

Nothing is assumed of the texts here: the date may hold markers of its own, so that the
marked run lies in the date, in the time or across both, and its span may lie inside the
date's span or around it. Settling still keeps every span within the text, as what is
deleted before the end of a span is deleted before the end of the text too.

`Face.writeTexts` is all of rendering that can fail: once the texts are written, no span is
refused.

## Key results

- `Buffer.inBounds_settled`: settling keeps the spans in bounds
- `Buffer.kinds_settled`: the spans that settling adds
- `Buffer.filter_start_sortedSpans`: sorting keeps spans with one start in their order
- `Face.wellFormed_face`: the spans of a face of any texts
- `renderFace_wellFormed`: rendering gives well-formed faces, and fails only in writing
-/

namespace ClockFace

/-! ## Bounds -/

/-- A span that ends within a marked text ends within what settling leaves of it. -/
theorem MarkedText.stop_settled_le (e : Emphasis) (m : MarkedText) {s : Span}
    (h : s.stop ≤ m.text.length) :
    (s.settled e m.start m.stop).stop ≤ (m.shown e).length := by
  have hlength := m.length_shown e
  have hlt := m.start_lt_stop
  have hstop : m.stop < m.text.length := by
    rw [m.text_eq_lead, List.length_append, m.length_lead, List.length_cons]
    omega
  cases e <;> simp only [Span.settled, Span.moved, staying, Emphasis.removed] at hlength ⊢ <;> omega

/-- The span that settling puts on the run ends within the text. -/
theorem MarkedText.stop_runSpans_le (e : Emphasis) (m : MarkedText) {s : Span}
    (h : s ∈ e.runSpans m.start m.run.length) : s.stop ≤ (m.shown e).length := by
  cases e with
  | none => cases h
  | normal => cases h
  | small =>
    obtain rfl := List.mem_singleton.1 h
    rw [shown, List.length_append, List.length_append, Emphasis.runText]
    exact Nat.le_add_right _ _

namespace Buffer

/-- Every span ends within the text. -/
def InBounds (b : Buffer) : Prop :=
  ∀ s ∈ b.spans, s.stop ≤ b.text.length

/-- Settling keeps the spans in bounds, wherever the marked run lies. -/
theorem inBounds_settled (e : Emphasis) {b : Buffer} (h : b.InBounds) : (b.settled e).InBounds := by
  obtain ⟨text, spans⟩ := b
  obtain hnone | ⟨m, rfl⟩ := Face.markedRun?_eq_none_or text
  · rw [settled_of_none hnone]
    exact h
  · rw [settled_text]
    intro s hs
    obtain hmoved | hrun := List.mem_append.1 hs
    · obtain ⟨t, ht, rfl⟩ := List.mem_map.1 hmoved
      exact m.stop_settled_le e (h t ht)
    · exact m.stop_runSpans_le e hrun

/-- A date with a run of its own and one more closing marker: the small run lies within the
small date, and the marker that closes nothing stays. -/
example :
    let small := SpanAction.resize SpanAction.smallFactor
    settled .small ⟨"3:04 a\uef00b\uef01c\uef01".toList,
        [⟨.dateEmphasis, 5, 11, small, by decide⟩]⟩ =
      ⟨"3:04 abc\uef01".toList,
        [⟨.dateEmphasis, 5, 9, small, by decide⟩, ⟨.amPmEmphasis, 6, 7, small, by decide⟩]⟩ := by
  decide

end Buffer

/-! ## Kinds -/

theorem Span.kind_settled (e : Emphasis) (start stop : Nat) (s : Span) :
    (s.settled e start stop).kind = s.kind := by
  cases e <;> rfl

/-- The kinds of the spans that an emphasis puts on a marked run. -/
def Emphasis.runKinds : Emphasis → List SpanKind
  | .small => [.amPmEmphasis]
  | .none | .normal => []

theorem Emphasis.kinds_runSpans (e : Emphasis) (start length : Nat) :
    (e.runSpans start length).map Span.kind = e.runKinds := by
  cases e <;> rfl

/-- Settling adds the span of the run, if there is a run, and loses none. -/
theorem Buffer.kinds_settled (e : Emphasis) (b : Buffer) :
    (b.settled e).spans.map Span.kind =
      b.spans.map Span.kind ++ if (Face.markedRun? b.text).isSome then e.runKinds else [] := by
  obtain ⟨text, spans⟩ := b
  obtain hnone | ⟨m, rfl⟩ := Face.markedRun?_eq_none_or text
  · rw [settled_of_none hnone, hnone]
    exact (List.append_nil _).symm
  · rw [settled_text, Face.markedRun?_text, List.map_append, List.map_map, e.kinds_runSpans]
    have hkinds : Span.kind ∘ Span.settled e m.start m.stop = Span.kind :=
      funext (Span.kind_settled e m.start m.stop)
    rw [hkinds]
    rfl

/-- The kinds of the spans that a visibility puts on the date. -/
def DateVisibility.dateKinds : DateVisibility → List SpanKind
  | .small => [.dateEmphasis]
  | .none | .normal => []

theorem Config.kinds_dateSpans (c : Config) (start length : Nat) :
    (c.dateSpans start length).map Span.kind = c.dateVisibility.dateKinds := by
  rw [dateSpans]
  cases c.dateVisibility <;> rfl

/-- The date and the run have kinds of their own. -/
theorem DateVisibility.nodup_kinds (v : DateVisibility) (e : Emphasis) (marked : Bool) :
    (v.dateKinds ++ if marked then e.runKinds else []).Nodup := by
  cases v <;> cases e <;> cases marked <;> decide

theorem DateVisibility.dateEmphasis_mem_kinds (v : DateVisibility) (e : Emphasis) (marked : Bool) :
    .dateEmphasis ∈ (v.dateKinds ++ if marked then e.runKinds else []) ↔ v = .small := by
  cases v <;> cases e <;> cases marked <;> decide

/-! ## Order -/

namespace Span

theorem start_le_trans (s t u : Span) (hst : decide (s.start ≤ t.start) = true)
    (htu : decide (t.start ≤ u.start) = true) : decide (s.start ≤ u.start) = true :=
  decide_eq_true (Nat.le_trans (of_decide_eq_true hst) (of_decide_eq_true htu))

theorem start_le_total (s t : Span) :
    (decide (s.start ≤ t.start) || decide (t.start ≤ s.start)) = true := by
  simpa using Nat.le_total s.start t.start

end Span

namespace Buffer

theorem perm_sortedSpans (b : Buffer) : b.sortedSpans.Perm b.spans :=
  List.mergeSort_perm _ _

theorem pairwise_sortedSpans (b : Buffer) :
    b.sortedSpans.Pairwise fun s t => s.start ≤ t.start :=
  (List.pairwise_mergeSort Span.start_le_trans Span.start_le_total b.spans).imp of_decide_eq_true

/-- Sorting keeps spans with one start in their order. -/
theorem filter_start_sortedSpans (b : Buffer) (n : Nat) :
    b.sortedSpans.filter (·.start = n) = b.spans.filter (·.start = n) := by
  let same := b.spans.filter (·.start = n)
  -- The spans with one start are sorted, so sorting all spans keeps their order
  have hsorted : same.Pairwise fun s t => decide (s.start ≤ t.start) = true := by
    refine List.pairwise_of_forall_mem_list fun s hs t ht => decide_eq_true (Nat.le_of_eq ?_)
    rw [of_decide_eq_true (List.mem_filter.1 hs).2, of_decide_eq_true (List.mem_filter.1 ht).2]
  have hsub : List.Sublist same b.sortedSpans :=
    List.sublist_mergeSort Span.start_le_trans Span.start_le_total hsorted List.filter_sublist
  have hfilter : List.Sublist same (b.sortedSpans.filter (·.start = n)) := by
    have hsame := hsub.filter (·.start = n)
    rwa [List.filter_filter, List.filter_congr fun _ _ => Bool.and_self _] at hsame
  exact (hfilter.eq_of_length (b.perm_sortedSpans.filter _).length_eq.symm).symm

end Buffer

/-! ## Well-formed faces -/

theorem Config.stop_of_mem_dateSpans {c : Config} {start length : Nat} {s : Span}
    (h : s ∈ c.dateSpans start length) : c.dateVisibility ≠ .none ∧ s.stop = start + length := by
  rw [dateSpans] at h
  cases hv : c.dateVisibility with
  | none =>
    rw [hv] at h
    cases h
  | normal =>
    rw [hv] at h
    cases h
  | small =>
    rw [hv] at h
    obtain rfl := List.mem_singleton.1 h
    exact ⟨by decide, rfl⟩

/-- The span of the date lies within the date and the time side by side. -/
theorem Config.inBounds_composed (c : Config) (date time : List Char) :
    (c.composed date time).InBounds := by
  intro s hs
  obtain ⟨hshown, hstop⟩ := stop_of_mem_dateSpans hs
  rw [hstop, composed]
  cases hp : c.datePosition with
  | left =>
    rw [c.dateStart_left hp, c.arrange_left hshown hp, List.append_assoc, List.length_append]
    omega
  | right =>
    rw [c.dateStart_right hp, c.arrange_right hshown hp]
    exact Nat.le_of_eq (by rw [List.length_append, List.length_append])

namespace Face

/-- Spans that a display can rely on: each lies in the text, they come in the order of their
starts, there is at most one of each kind, and one for the date exactly if it is small. -/
structure WellFormed (c : Config) (f : Face) : Prop where
  inside : ∀ s ∈ f.spans, s.start ≤ s.stop ∧ s.stop ≤ f.text.length
  sorted : f.spans.Pairwise fun s t => s.start ≤ t.start
  single : (f.spans.map Span.kind).Nodup
  date : .dateEmphasis ∈ f.spans.map Span.kind ↔ c.dateVisibility = .small

/-- The spans of a face of any texts are well formed. -/
theorem wellFormed_face (c : Config) (date time spoken : List Char) :
    (c.face date time spoken).WellFormed c := by
  let b := (c.composed date time).settled c.emphasis
  have hperm : (c.face date time spoken).spans.Perm b.spans := b.perm_sortedSpans
  -- Sorting keeps the kinds, which are known before it
  have hkinds := hperm.map Span.kind
  have hdate : (c.composed date time).spans.map Span.kind = c.dateVisibility.dateKinds :=
    c.kinds_dateSpans _ _
  rw [Buffer.kinds_settled, hdate] at hkinds
  refine ⟨fun s hs => ⟨s.start_le_stop, ?_⟩, b.pairwise_sortedSpans, ?_, ?_⟩
  · exact Buffer.inBounds_settled c.emphasis (c.inBounds_composed date time) s (hperm.mem_iff.1 hs)
  · exact hkinds.nodup_iff.2 (c.dateVisibility.nodup_kinds c.emphasis _)
  · exact hkinds.mem_iff.trans (c.dateVisibility.dateEmphasis_mem_kinds c.emphasis _)

/-- The texts of a face. -/
structure Texts where
  date : List Char
  time : List Char
  spoken : List Char

/-- Write the date if it is shown. -/
def writeShownDate (dates : DateWriter) (c : Config) (instant : Instant) :
    Except Failure (List Char) :=
  if c.dateVisibility = .none then .ok [] else c.layout.writeDate dates instant

/-- Write the texts of a face: the time, what is read aloud, and the date if it is shown. -/
def writeTexts (dates : DateWriter) (formats : TimeFormats) (c : Config) (instant : Instant) :
    Except Failure Texts := do
  let time ← formats.display.write instant
  let spoken ← formats.spoken.write instant
  let date ← writeShownDate dates c instant
  return ⟨date, time, spoken⟩

/-- All that can fail about a face is writing its texts. -/
theorem ofInstant_eq_map (dates : DateWriter) (formats : TimeFormats) (c : Config)
    (instant : Instant) :
    ofInstant dates formats c.layout instant =
      (writeTexts dates formats c instant).map fun t => c.face t.date t.time t.spoken := by
  cases htime : formats.display.write instant with
  | error e =>
    rw [ofInstant, writeTexts, htime]
    rfl
  | ok time =>
    cases hspoken : formats.spoken.write instant with
    | error e =>
      rw [ofInstant, writeTexts, htime, hspoken]
      rfl
    | ok spoken =>
      by_cases hv : c.dateVisibility = .none
      · have hface : ofInstant dates formats c.layout instant = .ok (c.face [] time spoken) :=
          ofInstant_layout htime hspoken fun hshown => absurd hv hshown
        rw [hface, writeTexts, htime, hspoken, writeShownDate, if_pos hv]
        rfl
      · cases hdate : c.layout.writeDate dates instant with
        | error e =>
          rw [ofInstant, writeTexts, htime, hspoken, writeShownDate, if_neg hv, hdate]
          simp only [compose, addDate_error hv]
          rfl
        | ok date =>
          rw [ofInstant_layout htime hspoken fun _ => hdate, writeTexts, htime, hspoken,
            writeShownDate, if_neg hv, hdate]
          rfl

end Face

/-- Rendering gives a face whenever the texts are written, and its spans are well formed,
whatever the texts hold. It fails only as the writing does: no span is ever refused. -/
theorem renderFace_wellFormed {σ : Type} (dates : DateWriter) (formats : TimeFormats) (c : Config)
    (instant : Instant) (s : Session σ) :
    match Face.writeTexts dates formats c instant with
    | .error e => (renderFace dates formats c.layout instant).outcome s = .error e
    | .ok t => ∃ f, (renderFace dates formats c.layout instant).outcome s = .ok f ∧
        f.spoken = t.spoken ∧ f.WellFormed c := by
  rw [renderFace_outcome, Face.ofInstant_eq_map]
  cases Face.writeTexts dates formats c instant with
  | error e => rfl
  | ok t => exact ⟨_, rfl, rfl, Face.wellFormed_face c t.date t.time t.spoken⟩

end ClockFace
