import ClockFace.Proofs.BufferDelete
import ClockFace.Proofs.FaceSpans
import ClockFace.Proofs.KeptText
import Mathlib.Data.List.Forall2

/-! # Edits of a buffer

A buffer is edited by adding spans to it and by deleting characters from it, each edit in
offsets of the text that it finds. What becomes of a text is said here of its characters, one
at a time: `Edit.follow` takes the offset of a character through an edit, and `survives` tells
whether any of the edits deletes it. Everything else is counted from that. The text left by
some edits is made of the characters that survive them, and a span goes from as many
characters as survive before its start to as many as survive before its end.

The induction goes over the edits from any buffer. One deletion leaves the offset of every
span at the number of characters before it that stay (`staying`), and counting what survives
the rest from there is counting what survives the whole (`survivingBefore_staying`).

## Key results

- `survivors_delete`, `survivingBefore_staying`: one deletion in front of other edits
- `take_drop_survivors`: a run of the text that is left, found by counting
- `follows_carried`: what becomes of a span by the edits after it
- `edits_run_from`: what edits leave of any buffer
- `edits_run`: what edits leave of a text
-/

namespace ClockFace

namespace Buffer

/-! ## Edits -/

/-- A change of a buffer. -/
inductive Edit where
  | add (kind : SpanKind) (start stop : Int) (action : SpanAction)
  | delete (start stop : Int)

namespace Edit

/-- Carry out an edit. -/
def perform : Edit → ExceptT Failure (StateM Buffer) Unit
  | add kind start stop action => addSpan kind start stop action
  | delete start stop => Buffer.delete start stop

/-- The buffer after an edit, also when it fails. -/
def after (e : Edit) (b : Buffer) : Buffer :=
  (e.perform.run b).2

/-- The edit fits the text of a buffer: a span lies within the text, and a range to delete does
not start before it. The range may end anywhere. -/
def Fits (b : Buffer) : Edit → Prop
  | add _ start stop _ => 0 ≤ start ∧ start ≤ stop ∧ stop ≤ b.text.length
  | delete start _ => 0 ≤ start

instance (b : Buffer) : DecidablePred (Fits b)
  | add _ start stop _ =>
    inferInstanceAs (Decidable (0 ≤ start ∧ start ≤ stop ∧ stop ≤ b.text.length))
  | delete start _ => inferInstanceAs (Decidable (0 ≤ start))

/-- Where the character at an offset stands after an edit; nowhere if it is deleted. -/
def follow : Edit → Nat → Option Nat
  | add .., offset => some offset
  | delete start stop, offset =>
    if stop ≤ start ∨ (offset : Int) < start then some offset
    else if (offset : Int) < stop then none
    else some (offset - (stop - start)).toNat

end Edit

/-- Every edit fits the text that it finds. -/
def AllFit : Buffer → List Edit → Prop
  | _, [] => True
  | b, e :: rest => e.Fits b ∧ AllFit (e.after b) rest

instance decidableAllFit : ∀ b edits, Decidable (AllFit b edits)
  | _, [] => .isTrue trivial
  | b, e :: rest =>
    have := decidableAllFit (e.after b) rest
    inferInstanceAs (Decidable (e.Fits b ∧ AllFit (e.after b) rest))

/-! ## Characters that survive -/

/-- No edit deletes the character that stands at an offset before them. -/
def survives : List Edit → Nat → Bool
  | [], _ => true
  | e :: rest, offset =>
    match e.follow offset with
    | none => false
    | some next => survives rest next

/-- The characters of a run that survive some edits, where the run starts at an offset. -/
def survivors (edits : List Edit) : Nat → List Char → List Char
  | _, [] => []
  | offset, c :: rest =>
    if survives edits offset then c :: survivors edits (offset + 1) rest
    else survivors edits (offset + 1) rest

/-- How many of the characters before an offset survive some edits. -/
def survivingBefore (edits : List Edit) (offset : Nat) : Nat :=
  (List.range offset).countP (survives edits)

section Survivors

variable {edits others : List Edit}

/-- What survives are the characters kept at offsets that survive. -/
theorem survivors_eq_kept (edits : List Edit) (first : Nat) (run : List Char) :
    survivors edits first run = Text.kept (survives edits) first run := by
  induction run generalizing first with
  | nil => rfl
  | cons c rest ih => rw [survivors, Text.kept_cons, ih]

theorem survivors_none (first : Nat) (run : List Char) : survivors [] first run = run := by
  rw [survivors_eq_kept, Text.kept_eq_self_iff]
  exact fun _ _ => rfl

theorem survivingBefore_none (offset : Nat) : survivingBefore [] offset = offset := by
  have hall : ∀ k ∈ List.range offset, survives [] k = true := fun _ _ => rfl
  rw [survivingBefore, List.countP_eq_length.2 hall, List.length_range]

/-- Two runs of the same characters leave the same where the characters have the same fate. -/
theorem survivors_congr {first second : Nat} {run : List Char}
    (h : ∀ k < run.length, survives edits (first + k) = survives others (second + k)) :
    survivors edits first run = survivors others second run := by
  rw [survivors_eq_kept, survivors_eq_kept]
  exact Text.kept_congr h

/-- Edits under which the same characters survive leave the same. -/
theorem survivors_eq_of_survives (h : survives edits = survives others) (first : Nat)
    (run : List Char) : survivors edits first run = survivors others first run :=
  survivors_congr fun k _ => congrFun h (first + k)

theorem survivors_append (edits : List Edit) (first : Nat) (run rest : List Char) :
    survivors edits first (run ++ rest) =
      survivors edits first run ++ survivors edits (first + run.length) rest := by
  simp only [survivors_eq_kept, Text.kept_append]

/-- Nothing is left where no character survives. -/
theorem survivors_eq_nil {first : Nat} {run : List Char}
    (h : ∀ k < run.length, survives edits (first + k) = false) : survivors edits first run = [] := by
  rw [survivors_eq_kept, Text.kept_eq_nil_iff]
  exact h

theorem survivingBefore_succ (edits : List Edit) (offset : Nat) :
    survivingBefore edits (offset + 1) =
      survivingBefore edits offset + if survives edits offset then 1 else 0 := by
  rw [survivingBefore, List.range_succ, List.countP_append, List.countP_singleton, survivingBefore]

theorem survivingBefore_mono (edits : List Edit) {a b : Nat} (h : a ≤ b) :
    survivingBefore edits a ≤ survivingBefore edits b :=
  (List.range_sublist.2 h).countP_le

theorem length_survivors (edits : List Edit) (text : List Char) :
    (survivors edits 0 text).length = survivingBefore edits text.length := by
  rw [survivors_eq_kept, Text.length_kept, survivingBefore, List.range_eq_range']

theorem take_survivors (edits : List Edit) {stop : Nat} {text : List Char}
    (h : stop ≤ text.length) :
    (survivors edits 0 text).take (survivingBefore edits stop) =
      survivors edits 0 (text.take stop) := by
  have hsplit := survivors_append edits 0 (text.take stop) (text.drop stop)
  have hlength : (survivors edits 0 (text.take stop)).length = survivingBefore edits stop := by
    rw [length_survivors, List.length_take_of_le h]
  rw [List.take_append_drop] at hsplit
  rw [hsplit, ← hlength, List.take_left]

theorem drop_survivors (edits : List Edit) {start : Nat} {text : List Char}
    (h : start ≤ text.length) :
    (survivors edits 0 text).drop (survivingBefore edits start) =
      survivors edits start (text.drop start) := by
  have hsplit := survivors_append edits 0 (text.take start) (text.drop start)
  have hlength : (survivors edits 0 (text.take start)).length = survivingBefore edits start := by
    rw [length_survivors, List.length_take_of_le h]
  rw [List.take_append_drop, List.length_take_of_le h, Nat.zero_add] at hsplit
  rw [hsplit, ← hlength, List.drop_left]

/-- A run of a text is found again in what is left, by counting what survives before its ends. -/
theorem take_drop_survivors (edits : List Edit) {start stop : Nat} {text : List Char}
    (h : start ≤ stop) (hstop : stop ≤ text.length) :
    ((survivors edits 0 text).take (survivingBefore edits stop)).drop
        (survivingBefore edits start) =
      survivors edits start ((text.take stop).drop start) := by
  have hstart : start ≤ (text.take stop).length := by rwa [List.length_take_of_le hstop]
  rw [take_survivors edits hstop, drop_survivors edits hstart]

end Survivors

/-! ## One edit in front of others -/

section Step

variable {start stop : Nat} {rest : List Edit}

theorem survives_add (kind : SpanKind) (start stop : Int) (action : SpanAction)
    (rest : List Edit) : survives (.add kind start stop action :: rest) = survives rest :=
  rfl

/-- A range that is empty or reversed deletes nothing. -/
theorem survives_delete_nothing {start stop : Int} (h : stop ≤ start) (rest : List Edit) :
    survives (.delete start stop :: rest) = survives rest := by
  funext offset
  rw [survives, Edit.follow, if_pos (.inl h)]

theorem survives_delete_of_lt (stop : Nat) (rest : List Edit) {offset : Nat}
    (h : offset < start) : survives (.delete start stop :: rest) offset = survives rest offset := by
  rw [survives, Edit.follow, if_pos (.inr (Int.ofNat_lt.2 h))]

theorem survives_delete_of_mem (rest : List Edit) {offset : Nat} (hstart : start ≤ offset)
    (hstop : offset < stop) : survives (.delete start stop :: rest) offset = false := by
  rw [survives, Edit.follow, if_neg (by omega), if_pos (Int.ofNat_lt.2 hstop)]

theorem survives_delete_of_ge (h : start < stop) (rest : List Edit) (k : Nat) :
    survives (.delete start stop :: rest) (stop + k) = survives rest (start + k) := by
  have hnext : ((stop + k : Nat) - ((stop : Int) - start)).toNat = start + k := by omega
  rw [survives, Edit.follow, if_neg (by omega), if_neg (by omega), hnext]

/-- The characters that survive a deletion and other edits are those that survive the others
among the characters that the deletion leaves. -/
theorem survivors_delete (h : start < stop) (rest : List Edit) (text : List Char) :
    survivors (.delete start stop :: rest) 0 text =
      survivors rest 0 (text.take start ++ text.drop stop) := by
  have htext : text =
      text.take start ++ ((text.drop start).take (stop - start) ++ text.drop stop) := by
    have hrest : (text.drop start).drop (stop - start) = text.drop stop := by
      rw [List.drop_drop, Nat.add_sub_cancel' (Nat.le_of_lt h)]
    calc
      text = text.take start ++ text.drop start := (List.take_append_drop start text).symm
      _ = text.take start ++ ((text.drop start).take (stop - start) ++ text.drop stop) := by
        rw [← hrest, List.take_append_drop (stop - start)]
  conv => lhs; rw [htext]
  -- The characters before the range stay, those inside go, and those behind it move forward
  rw [survivors_append, survivors_append, survivors_append]
  have hbefore : survivors (.delete start stop :: rest) 0 (text.take start) =
      survivors rest 0 (text.take start) := by
    refine survivors_congr fun k hk => ?_
    rw [List.length_take] at hk
    exact survives_delete_of_lt stop rest (by omega)
  have hinside : survivors (.delete start stop :: rest) (0 + (text.take start).length)
      ((text.drop start).take (stop - start)) = [] := by
    refine survivors_eq_nil fun k hk => ?_
    rw [List.length_take, List.length_drop] at hk
    rw [List.length_take]
    exact survives_delete_of_mem rest (by omega) (by omega)
  have hbehind : survivors (.delete start stop :: rest)
      (0 + (text.take start).length + ((text.drop start).take (stop - start)).length)
      (text.drop stop) = survivors rest (0 + (text.take start).length) (text.drop stop) := by
    refine survivors_congr fun k hk => ?_
    rw [List.length_drop] at hk
    rw [List.length_take, List.length_take, List.length_drop]
    -- Something stands behind the run, so the text is long enough for all of it
    have hfirst : 0 + min start text.length + min (stop - start) (text.length - start) = stop := by
      omega
    have hsecond : 0 + min start text.length = start := by omega
    rw [hfirst, hsecond]
    exact survives_delete_of_ge h rest k
  rw [hbefore, hinside, hbehind, List.nil_append]

/-- Counting the characters that survive a deletion and other edits is counting those that
survive the others, from where the offset lies after the deletion. -/
theorem survivingBefore_staying (h : start < stop) (rest : List Edit) (offset : Nat) :
    survivingBefore rest (staying start stop offset) =
      survivingBefore (.delete start stop :: rest) offset := by
  induction offset with
  | zero => rw [staying_of_le (Nat.zero_le _) (Nat.le_of_lt h)]; rfl
  | succ offset ih =>
    rw [survivingBefore_succ, ← ih]
    -- The next character lies before the range, inside or behind it
    obtain hbefore | hstart := Nat.lt_or_ge offset start
    · rw [survives_delete_of_lt stop rest hbefore, staying_of_le hbefore (Nat.le_of_lt h),
        staying_of_le (Nat.le_of_lt hbefore) (Nat.le_of_lt h), survivingBefore_succ]
    · obtain hinside | hstop := Nat.lt_or_ge offset stop
      · have hsame : staying start stop (offset + 1) = staying start stop offset := by
          unfold staying
          omega
        rw [survives_delete_of_mem rest hstart hinside, hsame]
        rfl
      · obtain ⟨k, rfl⟩ := Nat.exists_eq_add_of_le hstop
        have hoffset : staying start stop (stop + k) = start + k := by
          unfold staying
          omega
        have hnext : staying start stop (stop + k + 1) = start + k + 1 := by
          unfold staying
          omega
        rw [survives_delete_of_ge h, hnext, hoffset, survivingBefore_succ]

end Step

namespace Edit

/-- A span that fits is added. -/
theorem perform_add {b : Buffer} {kind : SpanKind} {start stop : Int} {action : SpanAction}
    (h : (add kind start stop action).Fits b) :
    (perform (add kind start stop action)).run b =
      (.ok (), ⟨b.text, b.spans ++ [⟨kind, start.toNat, stop.toNat, action,
        Int.toNat_le_toNat h.2.1⟩]⟩) := by
  have hadd := addSpan_run kind (Int.toNat_le_toNat h.2.1) action b
  rwa [Int.toNat_of_nonneg h.1, Int.toNat_of_nonneg (Int.le_trans h.1 h.2.1)] at hadd

/-- Nothing happens if the range to delete is empty or reversed. -/
theorem perform_delete_nothing {start stop : Int} (h : stop ≤ start) (b : Buffer) :
    (perform (.delete start stop)).run b = (.ok (), b) := by
  rw [perform, Buffer.delete, if_pos (by omega)]
  rfl

theorem perform_delete {start stop : Nat} (h : start < stop) (b : Buffer) :
    (perform (.delete start stop)).run b =
      (.ok (), ⟨b.text.take start ++ b.text.drop stop,
        b.spans.map (Span.moved start stop)⟩) := by
  rw [perform, delete_run h, cutText_natCast]

end Edit

end Buffer

/-! ## Spans -/

/-- A span once some edits are carried out: it goes from as many characters as survive before its
start to as many as survive before its end. -/
def Span.carried (edits : List Buffer.Edit) (s : Span) : Span where
  kind := s.kind
  start := Buffer.survivingBefore edits s.start
  stop := Buffer.survivingBefore edits s.stop
  action := s.action
  start_le_stop := Buffer.survivingBefore_mono edits s.start_le_stop

namespace Span

variable {edits others : List Buffer.Edit}

theorem carried_none (s : Span) : s.carried [] = s := by
  simp only [carried, Buffer.survivingBefore_none]

theorem carried_eq_of_survives (h : Buffer.survives edits = Buffer.survives others) :
    carried edits = carried others := by
  funext s
  simp only [carried, Buffer.survivingBefore, h]

/-- A span that a deletion moves and other edits carry on is carried by all of them. -/
theorem carried_moved {start stop : Nat} (h : start < stop) (rest : List Buffer.Edit) :
    carried rest ∘ moved start stop = carried (.delete start stop :: rest) := by
  funext s
  simp only [Function.comp_apply, carried, moved, Buffer.survivingBefore_staying h]

end Span

namespace Buffer

/-- A span as it is added: what is added, the text that it is put on, and the edits to come. -/
structure Placement where
  kind : SpanKind
  start : Nat
  stop : Nat
  action : SpanAction
  text : List Char
  later : List Edit

/-- The spans that edits add to a buffer, in the order of addition. -/
def placements : Buffer → List Edit → List Placement
  | _, [] => []
  | b, .add kind start stop action :: rest =>
    ⟨kind, start.toNat, stop.toNat, action, b.text, rest⟩ ::
      placements (Edit.after (.add kind start stop action) b) rest
  | b, .delete start stop :: rest => placements (Edit.after (.delete start stop) b) rest

/-- What has become of a span in the text that is left: each of its ends is the number of
characters that survive among those before it when the span was put there, and the span reads
those that survive of its run. -/
structure Follows (text : List Char) (p : Placement) (s : Span) : Prop where
  kind : s.kind = p.kind
  action : s.action = p.action
  start : s.start = survivingBefore p.later p.start
  stop : s.stop = survivingBefore p.later p.stop
  inside : s.stop ≤ text.length
  run : s.run text = survivors p.later p.start ((p.text.take p.stop).drop p.start)

/-- A span within a text follows the edits of the text. -/
theorem follows_carried (edits : List Edit) {text : List Char} {s : Span}
    (h : s.stop ≤ text.length) :
    Follows (survivors edits 0 text) ⟨s.kind, s.start, s.stop, s.action, text, edits⟩
      (s.carried edits) where
  kind := rfl
  action := rfl
  start := rfl
  stop := rfl
  inside := by
    rw [length_survivors]
    exact survivingBefore_mono edits h
  run := take_drop_survivors edits s.start_le_stop h

/-! ## Runs -/

/-- The first of some edits and then the others. -/
theorem forM_cons_run {e : Edit} {rest : List Edit} {b c : Buffer}
    (h : e.perform.run b = (.ok (), c)) :
    ((e :: rest).forM Edit.perform).run b = (rest.forM Edit.perform).run c := by
  show (e.perform >>= fun _ => rest.forM Edit.perform).run b = _
  rw [run_bind, h]

/-- What edits leave of a buffer, however it came about: none of them fails, the characters that
survive are left, the spans that were there are carried along, and those that are added
follow. -/
theorem edits_run_from (edits : List Edit) {b : Buffer} (h : AllFit b edits) :
    ∃ added,
      (edits.forM Edit.perform).run b =
        (.ok (), ⟨survivors edits 0 b.text, b.spans.map (Span.carried edits) ++ added⟩) ∧
      List.Forall₂ (Follows (survivors edits 0 b.text)) (placements b edits) added := by
  induction edits generalizing b with
  | nil =>
    refine ⟨[], ?_, .nil⟩
    rw [survivors_none, List.append_nil, List.map_congr_left fun s _ => s.carried_none,
      List.map_id']
    rfl
  | cons e rest ih =>
    obtain ⟨hfits, hrest⟩ := h
    cases e with
    | add kind start stop action =>
      have hstep := Edit.perform_add hfits
      have hafter : Edit.after (.add kind start stop action) b = _ := congrArg Prod.snd hstep
      have hsame := survives_add kind start stop action rest
      rw [hafter] at hrest
      obtain ⟨added, hrun, hfollow⟩ := ih hrest
      rw [forM_cons_run hstep, placements, hafter, hrun, survivors_eq_of_survives hsame,
        Span.carried_eq_of_survives hsame, List.map_append, List.append_assoc]
      let s : Span := ⟨kind, start.toNat, stop.toNat, action, Int.toNat_le_toNat hfits.2.1⟩
      -- The new span lies within the text, and so it follows the edits to come
      have hinside : s.stop ≤ b.text.length := Int.toNat_le.2 hfits.2.2
      exact ⟨s.carried rest :: added, rfl, .cons (follows_carried rest hinside) hfollow⟩
    | delete start stop =>
      obtain ⟨n, rfl⟩ := Int.eq_ofNat_of_zero_le hfits
      obtain hsome | hnothing := Int.lt_or_le n stop
      · -- The other edits find the spans moved, and the text without the range
        obtain ⟨m, rfl⟩ := Int.eq_ofNat_of_zero_le (Int.le_trans hfits (Int.le_of_lt hsome))
        have hlt : n < m := Int.ofNat_lt.1 hsome
        have hstep := Edit.perform_delete hlt b
        have hafter : Edit.after (.delete n m) b = _ := congrArg Prod.snd hstep
        rw [hafter] at hrest
        rw [forM_cons_run hstep, placements, hafter, survivors_delete hlt,
          ← Span.carried_moved hlt, ← List.map_map]
        exact ih hrest
      · -- The other edits find the same buffer
        have hstep := Edit.perform_delete_nothing hnothing b
        have hafter : Edit.after (.delete n stop) b = b := congrArg Prod.snd hstep
        have hsame := survives_delete_nothing hnothing rest
        rw [hafter] at hrest
        rw [forM_cons_run hstep, placements, hafter, survivors_eq_of_survives hsame,
          Span.carried_eq_of_survives hsame]
        exact ih hrest

/-- No edit of a text fails if all fit. The characters that no deletion removes are left, in their
order; each span that was added goes from as many characters as survive before its start to as
many as survive before its end, within the text, and reads what is left of its run; and the spans
are listed by their starts, those with one start in the order of addition. -/
theorem edits_run (text : List Char) (edits : List Edit) (h : AllFit (ofText text) edits) :
    ∃ b, (edits.forM Edit.perform).run (ofText text) = (.ok (), b) ∧
      b.text = survivors edits 0 text ∧
      List.Forall₂ (Follows b.text) (placements (ofText text) edits) b.spans ∧
      b.sortedSpans.Perm b.spans ∧
      b.sortedSpans.Pairwise (fun s t => s.start ≤ t.start) ∧
      ∀ n, b.sortedSpans.filter (·.start = n) = b.spans.filter (·.start = n) := by
  obtain ⟨added, hrun, hfollow⟩ := edits_run_from edits h
  let b : Buffer := ⟨survivors edits 0 text, added⟩
  exact ⟨b, hrun, rfl, hfollow, b.perm_sortedSpans, b.pairwise_sortedSpans,
    b.filter_start_sortedSpans⟩

/-- Spans on a day, a date and an AM/PM text, which is given a second span later. Deletions
swallow the day, cut off the end of the date, run past the end of the text, and are reversed. -/
theorem edits_run_wednesday :
    let small := SpanAction.resize SpanAction.smallFactor
    let text := "Wed 10 Jan, 3:04 PM".toList
    let edits : List Edit :=
      [.add .dateEmphasis 0 3 .delete, .add .amPmEmphasis 17 19 small, .delete 12 17,
        .delete 5 3, .add .dateEmphasis 4 10 small, .add .amPmEmphasis 12 14 .delete,
        .delete 9 12, .delete 0 4, .delete 6 90, .delete 3 (-1)]
    AllFit (ofText text) edits ∧ survivors edits 0 text = "10 JaP".toList ∧
      ∃ b, (edits.forM Edit.perform).run (ofText text) = (.ok (), b) ∧
        b.text = survivors edits 0 text ∧
        List.Forall₂ (Follows b.text) (placements (ofText text) edits) b.spans ∧
        b.spans.map (Span.run · b.text) = [[], ['P'], "10 Ja".toList, ['P']] ∧
        (b.sortedSpans.filter (·.start = 5)).map Span.action = [small, .delete] := by
  intro small text edits
  have hfit : AllFit (ofText text) edits := by decide
  obtain ⟨b, hrun, htext, hfollow, -, -, hsame⟩ := edits_run text edits hfit
  have hb : b = ((edits.forM Edit.perform).run (ofText text)).2 := (congrArg Prod.snd hrun).symm
  refine ⟨hfit, by decide, b, hrun, htext, hfollow, ?_, ?_⟩
  · rw [hb]
    decide
  · rw [hsame, hb]
    decide

end Buffer

end ClockFace
