import ClockFace.Proofs.FaceSpans
import ClockFace.Proofs.KeptText
import ClockFace.Styled.Face

/-! # Deletions in styled faces

A terminal drops the runs of the delete spans of a face one after the other, from the last
start to the first, each at its offsets in the text of the face. The offsets of a run hold
as long as nothing has gone between its start and its end before its turn. Where two delete
spans overlap this fails for the one that starts first, whose end then lies too far behind:
it takes along as many characters more as it shares with the other, if there are any left.

The induction goes over the delete spans by their starts, the first one outermost: it is the
last one to be dropped, and finds the text in front of its start as it was.

## Key results

- `drop_eq_iff`: dropping a number of characters from what is left of two parts
- `cutAll_sublist`: nothing of a delete span is left
- `cutAll_cons_eq_iff`: one more delete span in front of the others
- `plain_styled_eq_iff`: when just the runs of the delete spans are dropped
-/

namespace ClockFace

/-! ## Spans over a text -/

namespace Span

/-- The span lies over the character at an offset. -/
def covers (s : Span) (offset : Nat) : Bool :=
  s.start ≤ offset && offset < s.stop

/-- No character lies under both spans. -/
def Apart (s t : Span) : Prop :=
  min s.stop t.stop ≤ max s.start t.start

instance (s t : Span) : Decidable (s.Apart t) :=
  inferInstanceAs (Decidable (_ ≤ _))

theorem covers_iff {s : Span} {offset : Nat} :
    s.covers offset = true ↔ s.start ≤ offset ∧ offset < s.stop := by
  simp [covers]

theorem covers_eq_false_iff {s : Span} {offset : Nat} :
    s.covers offset = false ↔ (s.start ≤ offset → s.stop ≤ offset) := by
  rw [Bool.eq_false_iff, Ne, covers_iff]
  omega

theorem apart_iff {s t : Span} :
    s.Apart t ↔ ∀ offset, s.covers offset = true → t.covers offset = false := by
  simp only [covers_iff, covers_eq_false_iff, Apart]
  constructor
  · intro h offset hs
    omega
  · -- A character under both lies at the later of the two starts
    intro h
    have hlater := h (max s.start t.start)
    omega

theorem Apart.symm {s t : Span} (h : s.Apart t) : t.Apart s := by
  rw [Apart, Nat.min_comm, Nat.max_comm]
  exact h

/-- The text without the run of a span. -/
def cut (s : Span) (text : List Char) : List Char :=
  text.take s.start ++ text.drop s.stop

/-- The text without the runs of some spans, each cut out at its offsets, the last one first. -/
def cutAll (spans : List Span) (text : List Char) : List Char :=
  spans.foldr cut text

/-- No span lies over the character at an offset. -/
def bare (spans : List Span) (offset : Nat) : Bool :=
  !spans.any (·.covers offset)

variable {s : Span} {rest spans : List Span} {text : List Char}

theorem bare_iff {offset : Nat} :
    bare spans offset = true ↔ ∀ s ∈ spans, s.covers offset = false := by
  simp [bare]

theorem bare_cons (s : Span) (rest : List Span) (offset : Nat) :
    bare (s :: rest) offset = (!s.covers offset && bare rest offset) := by
  rw [bare, List.any_cons, Bool.not_or, bare]

theorem bare_cons_of_stop_le {offset : Nat} (h : s.stop ≤ offset) :
    bare (s :: rest) offset = bare rest offset := by
  rw [bare_cons, covers_eq_false_iff.2 fun _ => h, Bool.not_false, Bool.true_and]

/-! ## One span in front of others -/

/-- Spans do not reach what stands in front of all of them. -/
theorem take_cutAll {n : Nat} (h : ∀ s ∈ spans, n ≤ s.start) (text : List Char) :
    (cutAll spans text).take n = text.take n := by
  induction spans with
  | nil => rfl
  | cons s rest ih =>
    rw [List.forall_mem_cons] at h
    have hspan := s.start_le_stop
    rw [← ih h.2]
    show (cut s (cutAll rest text)).take n = _
    rw [cut, List.take_append, List.take_take, Nat.min_eq_left h.1]
    obtain hlt | hle := Nat.lt_or_ge (cutAll rest text).length s.start
    · rw [List.drop_eq_nil_of_le (by omega), List.take_nil, List.append_nil]
    · have hnone : n - ((cutAll rest text).take s.start).length = 0 := by
        rw [List.length_take_of_le hle]
        omega
      rw [hnone, List.take_zero, List.append_nil]

theorem cutAll_split {n : Nat} (h : ∀ s ∈ spans, n ≤ s.start) (text : List Char) :
    cutAll spans text = text.take n ++ (cutAll spans text).drop n := by
  rw [← take_cutAll h, List.take_append_drop]

/-- The first span cuts from what the others leave of the text behind its start. -/
theorem cutAll_cons (h : ∀ t ∈ rest, s.start ≤ t.start) (text : List Char) :
    cutAll (s :: rest) text =
      text.take s.start ++ ((cutAll rest text).drop s.start).drop (s.stop - s.start) := by
  have hspan := s.start_le_stop
  show cut s (cutAll rest text) = _
  rw [cut, take_cutAll h, List.drop_drop, Nat.add_sub_cancel' hspan]

/-- What other spans leave under a span. -/
def leftUnder (s : Span) (rest : List Span) (text : List Char) : List Char :=
  Text.kept (bare rest) s.start ((text.drop s.start).take (s.stop - s.start))

/-- What other spans leave behind a span. -/
def leftBehind (s : Span) (rest : List Span) (text : List Char) : List Char :=
  Text.kept (bare rest) s.stop (text.drop s.stop)

theorem length_leftUnder_le (s : Span) (rest : List Span) (text : List Char) :
    (s.leftUnder rest text).length ≤ s.stop - s.start := by
  refine Nat.le_trans ((Text.kept_sublist ..).length_le) ?_
  rw [List.length_take]
  exact Nat.min_le_left _ _

/-- The bare characters of a text: those in front of a span, under it and behind it. -/
theorem kept_bare (h : ∀ t ∈ rest, s.start ≤ t.start) (text : List Char) :
    Text.kept (bare rest) 0 text =
      text.take s.start ++ (s.leftUnder rest text ++ s.leftBehind rest text) := by
  have hspan := s.start_le_stop
  have hfront : Text.kept (bare rest) 0 (text.take s.start) = text.take s.start := by
    rw [Text.kept_eq_self_iff]
    intro k hk
    rw [List.length_take] at hk
    rw [bare_iff]
    intro t ht
    have hstart := h t ht
    rw [covers_eq_false_iff]
    omega
  rw [Text.kept_split _ 0 s.start, hfront, Text.kept_split _ _ (s.stop - s.start),
    List.drop_drop, Nat.zero_add, Nat.add_sub_cancel' hspan]
  rfl

/-- One more span leaves less: what lies under it goes. -/
theorem kept_bare_cons (h : ∀ t ∈ rest, s.start ≤ t.start) (text : List Char) :
    Text.kept (bare (s :: rest)) 0 text = text.take s.start ++ s.leftBehind rest text := by
  have hspan := s.start_le_stop
  have hunder : s.leftUnder (s :: rest) text = [] := by
    rw [leftUnder, Text.kept_eq_nil_iff]
    intro k hk
    rw [List.length_take, List.length_drop] at hk
    have hcovers : s.covers (s.start + k) = true := covers_iff.2 (by omega)
    rw [bare_cons, hcovers]
    rfl
  have hbehind : s.leftBehind (s :: rest) text = s.leftBehind rest text :=
    Text.kept_congr fun k _ => bare_cons_of_stop_le (Nat.le_add_right _ _)
  have hfirst : ∀ t ∈ s :: rest, s.start ≤ t.start :=
    List.forall_mem_cons.2 ⟨Nat.le_refl _, h⟩
  rw [kept_bare hfirst, hunder, hbehind, List.nil_append]

/-- Others leave all of the run of a span exactly if each of them is apart from it, for a span
within the text. -/
theorem length_leftUnder_eq_iff (h : s.stop ≤ text.length) :
    (s.leftUnder rest text).length = s.stop - s.start ↔ ∀ t ∈ rest, s.Apart t := by
  have hrun : ((text.drop s.start).take (s.stop - s.start)).length = s.stop - s.start := by
    rw [List.length_take, List.length_drop]
    omega
  have hself : (s.leftUnder rest text).length = s.stop - s.start ↔
      ∀ k < s.stop - s.start, bare rest (s.start + k) = true := by
    rw [← hrun, ← Text.kept_eq_self_iff]
    exact (Text.kept_sublist ..).length_eq
  rw [hself]
  simp only [bare_iff, apart_iff, covers_iff]
  constructor
  · intro hbare t ht offset hoffset
    obtain ⟨k, rfl⟩ := Nat.exists_eq_add_of_le hoffset.1
    exact hbare k (by omega) t ht
  · intro hapart k hk t ht
    exact hapart t ht (s.start + k) (by omega)

theorem leftBehind_eq_nil_iff (s : Span) (rest : List Span) (text : List Char) :
    s.leftBehind rest text = [] ↔
      ∀ offset, s.stop ≤ offset → offset < text.length → bare rest offset = false := by
  rw [leftBehind, Text.kept_eq_nil_iff, List.length_drop]
  constructor
  · intro h offset hstop hlength
    obtain ⟨k, rfl⟩ := Nat.exists_eq_add_of_le hstop
    exact h k (by omega)
  · intro h k hk
    exact h (s.stop + k) (Nat.le_add_right _ _) (by omega)

end Span

/-! ## Dropping from what is left -/

section Drop

variable {α : Type} {left first second : List α} {n : Nat}

/-- Of two parts some characters may be gone already. Dropping as many as the first part can
have leaves none of it. -/
theorem drop_sublist (hleft : left.Sublist (first ++ second)) (hfirst : first.length ≤ n) :
    (left.drop n).Sublist second := by
  have hdrop := hleft.drop n
  rw [List.drop_append, List.drop_eq_nil_of_le hfirst, List.nil_append] at hdrop
  exact hdrop.trans (List.drop_sublist _ _)

/-- It leaves the second part exactly if that is empty, or if nothing was gone and the first
part has that many. -/
theorem drop_eq_iff (hleft : left.Sublist (first ++ second)) (hfirst : first.length ≤ n) :
    left.drop n = second ↔ second = [] ∨ (left = first ++ second ∧ first.length = n) := by
  have hle := hleft.length_le
  rw [List.length_append] at hle
  constructor
  · intro hdrop
    by_cases hnil : second = []
    · exact .inl hnil
    · -- Something is left of the second part, so all that was dropped belongs to the first
      have hpos := List.length_pos_iff.2 hnil
      have hlength := congrArg List.length hdrop
      rw [List.length_drop] at hlength
      have hall : left = first ++ second := by
        refine hleft.eq_of_length ?_
        rw [List.length_append]
        omega
      exact .inr ⟨hall, by omega⟩
  · rintro (rfl | ⟨rfl, rfl⟩)
    · rw [List.length_nil] at hle
      exact List.drop_eq_nil_of_le (by omega)
    · exact List.drop_left

end Drop

namespace Span

variable {s : Span} {rest spans : List Span} {text : List Char}

/-- Nothing that lies under a span is left, whatever overlaps. -/
theorem cutAll_sublist (h : spans.Pairwise fun s t => s.start ≤ t.start) (text : List Char) :
    (cutAll spans text).Sublist (Text.kept (bare spans) 0 text) := by
  induction spans with
  | nil =>
    rw [Text.kept_eq_self_iff.2 fun _ _ => rfl]
    exact List.Sublist.refl text
  | cons s rest ih =>
    rw [List.pairwise_cons] at h
    have hrest := ih h.2
    rw [cutAll_split h.1, kept_bare h.1, List.append_sublist_append_left] at hrest
    rw [cutAll_cons h.1, kept_bare_cons h.1, List.append_sublist_append_left]
    exact drop_sublist hrest (s.length_leftUnder_le rest text)

/-- With one more span in front of others, no more is cut out than what lies under the spans
exactly if nothing is left behind the new one, or if this is so for the others, and each of
them is apart from the new one. -/
theorem cutAll_cons_eq_iff (h : (s :: rest).Pairwise fun s t => s.start ≤ t.start) :
    cutAll (s :: rest) text = Text.kept (bare (s :: rest)) 0 text ↔
      s.leftBehind rest text = [] ∨
        (cutAll rest text = Text.kept (bare rest) 0 text ∧ ∀ t ∈ rest, s.Apart t) := by
  rw [List.pairwise_cons] at h
  have hrest := cutAll_sublist h.2 text
  rw [cutAll_split h.1, kept_bare h.1, List.append_sublist_append_left] at hrest
  have hwhole :
      (cutAll rest text).drop s.start = s.leftUnder rest text ++ s.leftBehind rest text ↔
        cutAll rest text = Text.kept (bare rest) 0 text := by
    rw [kept_bare h.1, ← List.append_cancel_left_eq (text.take s.start), ← cutAll_split h.1]
  rw [cutAll_cons h.1, kept_bare_cons h.1, List.append_cancel_left_eq,
    drop_eq_iff hrest (s.length_leftUnder_le rest text), hwhole]
  by_cases hlong : s.stop ≤ text.length
  · rw [length_leftUnder_eq_iff hlong]
  · -- Nothing stands behind a span that runs past the end of the text
    have hbehind : s.leftBehind rest text = [] := by
      rw [leftBehind_eq_nil_iff]
      omega
    exact iff_of_true (.inl hbehind) (.inl hbehind)

/-! ## Overlaps -/

/-- No two of the spans that start up to an offset lie over one character. -/
def ApartUpTo (spans : List Span) (offset : Nat) : Prop :=
  (spans.filter (·.start ≤ offset)).Pairwise Apart

instance (spans : List Span) (offset : Nat) : Decidable (ApartUpTo spans offset) :=
  inferInstanceAs (Decidable (List.Pairwise ..))

theorem apartUpTo_of_lt {offset : Nat} (h : ∀ s ∈ spans, offset < s.start) :
    ApartUpTo spans offset := by
  have hnone : spans.filter (·.start ≤ offset) = [] := by
    rw [List.filter_eq_nil_iff]
    intro s hs
    have hstart := h s hs
    simp only [decide_eq_true_eq]
    omega
  rw [ApartUpTo, hnone]
  exact .nil

theorem apartUpTo_cons {offset : Nat} :
    ApartUpTo (s :: rest) offset ↔
      (s.start ≤ offset → ∀ t ∈ rest, t.start ≤ offset → s.Apart t) ∧ ApartUpTo rest offset := by
  by_cases hstart : s.start ≤ offset
  · rw [ApartUpTo, List.filter_cons_of_pos (by simpa using hstart), List.pairwise_cons]
    simp [ApartUpTo, hstart]
  · rw [ApartUpTo, List.filter_cons_of_neg (by simpa using hstart)]
    exact (and_iff_right fun h => absurd h hstart).symm

theorem ApartUpTo.mono {i j : Nat} (h : ApartUpTo spans j) (hle : i ≤ j) : ApartUpTo spans i := by
  have hfilter : spans.filter (·.start ≤ i) =
      (spans.filter (·.start ≤ j)).filter (·.start ≤ i) := by
    rw [List.filter_filter]
    refine List.filter_congr fun s _ => ?_
    rw [← Bool.decide_and, decide_eq_decide]
    omega
  rw [ApartUpTo, hfilter]
  exact h.filter _

/-- The order of the spans does not matter. -/
theorem apartUpTo_perm (h : rest.Perm spans) (offset : Nat) :
    ApartUpTo rest offset ↔ ApartUpTo spans offset :=
  (h.filter _).pairwise_iff Apart.symm

/-- The spans that start before a character under none of them are apart, whichever it is. -/
def ApartBefore (spans : List Span) (text : List Char) : Prop :=
  ∀ offset < text.length, bare spans offset = true → ApartUpTo spans offset

instance (spans : List Span) (text : List Char) : Decidable (ApartBefore spans text) :=
  inferInstanceAs (Decidable (∀ offset < text.length, _ → _))

/-- If nothing is left behind the first span, what is left stands in front of all of them. -/
theorem apartBefore_of_leftBehind_eq_nil (h : ∀ t ∈ rest, s.start ≤ t.start)
    (hbehind : s.leftBehind rest text = []) : ApartBefore (s :: rest) text := by
  intro offset hoffset hbare
  rw [leftBehind_eq_nil_iff] at hbehind
  rw [bare_cons, Bool.and_eq_true, Bool.not_eq_true', covers_eq_false_iff] at hbare
  have hbefore : offset < s.start := by
    refine Nat.lt_of_not_le fun hstart => ?_
    rw [hbehind offset (hbare.1 hstart) hoffset] at hbare
    exact Bool.noConfusion hbare.2
  exact apartUpTo_of_lt <| List.forall_mem_cons.2
    ⟨hbefore, fun t ht => Nat.lt_of_lt_of_le hbefore (h t ht)⟩

/-- If something is left behind the first span, the others have to be apart from it. -/
theorem apartBefore_cons_iff {last : Nat} (hstop : s.stop ≤ last) (hlast : last < text.length)
    (hleft : bare rest last = true) :
    ApartBefore (s :: rest) text ↔ ApartBefore rest text ∧ ∀ t ∈ rest, s.Apart t := by
  have hspan := s.start_le_stop
  constructor
  · intro h
    have hupTo := apartUpTo_cons.1 (h last hlast ((bare_cons_of_stop_le hstop).trans hleft))
    constructor
    · intro offset hoffset hbare
      by_cases hcovers : s.covers offset = true
      · -- What lies under the first span stands in front of the character that is left
        rw [covers_iff] at hcovers
        exact hupTo.2.mono (by omega)
      · have hbare' : bare (s :: rest) offset = true := by
          rw [bare_cons, Bool.eq_false_iff.2 hcovers, hbare]
          rfl
        exact (apartUpTo_cons.1 (h offset hoffset hbare')).2
    · intro t ht
      obtain hle | hlt := Nat.lt_or_ge last t.start
      · have htspan := t.start_le_stop
        rw [Apart]
        omega
      · exact hupTo.1 (Nat.le_trans hspan hstop) t ht hlt
  · rintro ⟨hrest, hapart⟩ offset hoffset hbare
    rw [bare_cons, Bool.and_eq_true] at hbare
    exact apartUpTo_cons.2 ⟨fun _ t ht _ => hapart t ht, hrest offset hoffset hbare.2⟩

theorem bare_perm (h : rest.Perm spans) : bare rest = bare spans := by
  funext offset
  rw [bare, bare, h.any_eq]

theorem apartBefore_perm (h : rest.Perm spans) (text : List Char) :
    ApartBefore rest text ↔ ApartBefore spans text := by
  simp only [ApartBefore, bare_perm h, apartUpTo_perm h]

/-- No more is cut out than what lies under the spans exactly if the spans that start before a
character under none of them are apart. -/
theorem cutAll_eq_iff (h : spans.Pairwise fun s t => s.start ≤ t.start) :
    cutAll spans text = Text.kept (bare spans) 0 text ↔ ApartBefore spans text := by
  induction spans with
  | nil =>
    refine iff_of_true (Text.kept_eq_self_iff.2 fun _ _ => rfl).symm fun _ _ _ => ?_
    exact apartUpTo_of_lt (List.forall_mem_nil _)
  | cons s rest ih =>
    have hfirst := (List.pairwise_cons.1 h).1
    rw [cutAll_cons_eq_iff h, ih (List.pairwise_cons.1 h).2]
    by_cases hbehind : s.leftBehind rest text = []
    · exact iff_of_true (.inl hbehind) (apartBefore_of_leftBehind_eq_nil hfirst hbehind)
    · obtain ⟨last, hstop, hlast, hleft⟩ :
          ∃ last, s.stop ≤ last ∧ last < text.length ∧ bare rest last = true := by
        simpa [leftBehind_eq_nil_iff] using hbehind
      rw [or_iff_right hbehind, apartBefore_cons_iff hstop hlast hleft]

end Span

/-! ## Styled texts -/

namespace StyledText

theorem plain_ofText {text : List Char} (h : text.any isControl = false) (base : String) :
    (ofText text base).plain = text := by
  rw [List.any_eq_false] at h
  rw [ofText, List.filter_eq_self]
  intro c hc
  simpa using h c hc

@[simp] theorem plain_stylize (t : StyledText) (style : String) (start stop : Nat) :
    (t.stylize style start stop).plain = t.plain := by
  rw [stylize]
  split <;> rfl

@[simp] theorem plain_slice (t : StyledText) (start stop : Nat) :
    (t.slice start stop).plain = (t.plain.take stop).drop start := by
  rw [List.take_eq_take_min]
  rfl

@[simp] theorem plain_append (a b : StyledText) : (a.append b).plain = a.plain ++ b.plain := by
  rw [append]
  split
  · next h => rw [List.isEmpty_iff.1 h, List.append_nil]
  · rfl

theorem plain_delete (t : StyledText) (s : Span) :
    (t.delete s.start s.stop).plain = s.cut t.plain := by
  simp [delete, Span.cut]

end StyledText

namespace Face

variable {f : Face}

/-- The delete spans of a face. -/
def deleteSpans (f : Face) : List Span :=
  f.spans.filter (·.action == .delete)

/-- The text of a face without the characters that lie under delete spans. -/
def undeleted (f : Face) : List Char :=
  Text.kept (Span.bare f.deleteSpans) 0 f.text

theorem plain_styleSmall (h : f.text.any StyledText.isControl = false)
    (smallStyle baseStyle : String) : (f.styleSmall smallStyle baseStyle).plain = f.text := by
  refine List.foldlRecOn (motive := fun t : StyledText => t.plain = f.text) _ _ ?_ ?_
  · exact StyledText.plain_ofText h baseStyle
  · intro t ht s _
    rw [StyledText.plain_stylize, ht]

/-- The deletions from the first start to the last. -/
theorem pairwise_deletions_reverse (f : Face) :
    f.deletions.reverse.Pairwise fun s t => s.start ≤ t.start := by
  rw [List.pairwise_reverse]
  have htrans : ∀ s t u : Span, decide (t.start ≤ s.start) = true →
      decide (u.start ≤ t.start) = true → decide (u.start ≤ s.start) = true :=
    fun s t u hst htu => Span.start_le_trans u t s htu hst
  have hsorted := List.pairwise_mergeSort htrans (fun s t => Span.start_le_total t s) f.deleteSpans
  exact hsorted.imp of_decide_eq_true

theorem deletions_reverse_perm (f : Face) : f.deletions.reverse.Perm f.deleteSpans :=
  (List.reverse_perm _).trans (List.mergeSort_perm _ _)

/-- A terminal cuts out the delete spans, the last one first. -/
theorem plain_styled (h : f.text.any StyledText.isControl = false)
    (smallStyle baseStyle : String) :
    (f.styled smallStyle baseStyle).plain = Span.cutAll f.deletions.reverse f.text := by
  have hfold : ∀ (spans : List Span) (t : StyledText),
      (spans.foldl (fun t s => t.delete s.start s.stop) t).plain =
        spans.foldl (fun text s => s.cut text) t.plain := by
    intro spans
    induction spans with
    | nil => exact fun _ => rfl
    | cons s rest ih =>
      intro t
      rw [List.foldl_cons, List.foldl_cons, ih, StyledText.plain_delete]
  rw [styled, hfold, plain_styleSmall h, Span.cutAll, List.foldr_reverse]

/-- Whatever the delete spans of a face without control characters are, a terminal shows no
character under any of them, and only in their order the others. It shows all the others
exactly if for each of them no two delete spans that start before it overlap. -/
theorem plain_styled_eq_iff (f : Face) (smallStyle baseStyle : String)
    (htext : f.text.any StyledText.isControl = false) :
    (f.styled smallStyle baseStyle).plain.Sublist f.undeleted ∧
      ((f.styled smallStyle baseStyle).plain = f.undeleted ↔
        Span.ApartBefore f.deleteSpans f.text) := by
  have hsorted := f.pairwise_deletions_reverse
  have hperm := f.deletions_reverse_perm
  rw [plain_styled htext, undeleted, ← Span.bare_perm hperm, ← Span.apartBefore_perm hperm]
  exact ⟨Span.cutAll_sublist hsorted f.text, Span.cutAll_eq_iff hsorted⟩

/-- Two delete spans overlap at the end of the text, where nothing else can go. -/
theorem plain_styled_eq_iff_end :
    let f : Face := {
      text := "Wed 3:04 PM".toList
      spans := [⟨.dateEmphasis, 0, 4, .delete, by decide⟩,
        ⟨.amPmEmphasis, 8, 11, .delete, by decide⟩, ⟨.amPmEmphasis, 9, 11, .delete, by decide⟩]
      spoken := "3:04 PM".toList }
    f.text.any StyledText.isControl = false ∧
      (f.styled "dim" "").plain = "3:04".toList ∧ f.undeleted = "3:04".toList ∧
      ((f.styled "dim" "").plain = f.undeleted ↔
        Span.ApartBefore f.deleteSpans f.text) := by
  intro f
  have htext : f.text.any StyledText.isControl = false := by decide
  have hdeletions : f.deletions = [⟨.amPmEmphasis, 9, 11, .delete, by decide⟩,
      ⟨.amPmEmphasis, 8, 11, .delete, by decide⟩, ⟨.dateEmphasis, 0, 4, .delete, by decide⟩] := by
    simp [f, deletions, List.mergeSort, List.MergeSort.Internal.splitInTwo]
  have hplain : (f.styled "dim" "").plain = "3:04".toList := by
    rw [styled, hdeletions]
    decide
  exact ⟨htext, hplain, by decide, (plain_styled_eq_iff f "dim" "" htext).2⟩

/-- Two delete spans overlap in front of other text, which goes with them. -/
theorem plain_styled_ne :
    let f : Face := {
      text := "3:04 PM Wed".toList
      spans := [⟨.amPmEmphasis, 4, 7, .delete, by decide⟩,
        ⟨.dateEmphasis, 5, 7, .delete, by decide⟩]
      spoken := "3:04 PM".toList }
    f.text.any StyledText.isControl = false ∧ (∀ s ∈ f.spans, s.stop ≤ f.text.length) ∧
      f.undeleted = "3:04 Wed".toList ∧ (f.styled "dim" "").plain = "3:04ed".toList ∧
      (f.styled "dim" "").plain ≠ f.undeleted ∧ ¬Span.ApartBefore f.deleteSpans f.text := by
  intro f
  have hdeletions : f.deletions = [⟨.dateEmphasis, 5, 7, .delete, by decide⟩,
      ⟨.amPmEmphasis, 4, 7, .delete, by decide⟩] := by
    simp [f, deletions, List.mergeSort, List.MergeSort.Internal.splitInTwo]
  have hundeleted : f.undeleted = "3:04 Wed".toList := by decide
  have hplain : (f.styled "dim" "").plain = "3:04ed".toList := by
    rw [styled, hdeletions]
    decide
  refine ⟨by decide, by decide, hundeleted, hplain, ?_, by decide⟩
  rw [hplain, hundeleted]
  decide

end Face

end ClockFace
