import ClockFace.Proofs.FaceDeletions

/-! # Styles in styled faces

The small runs of a face are styled first, and then deletions cut the styled text into pieces
and join them again. Each cut clips the styles at its edge and moves them, and each join puts
the base style on what follows. A style other than the base style still lies on the characters
that it was put on, and on no others (`HasStyle`): a deletion only moves the characters behind
it to the front, and takes their styles along.

Where a character stands in the end is the number of characters before it that are left
(`Span.place`). For delete spans that lie apart the induction goes over the spans by their
starts, the first one outermost, as for the text: the first span finds the text in front of its
start as it was, and under it nothing is missing.

## Key results

- `hasStyle_slice`, `hasStyle_append`, `hasStyle_delete`: the styles of cut and joined texts
- `Span.place_cons`: one more delete span in front of the others
- `hasStyle_deleteAll`: the styles of a character that is left
- `hasStyle_styled`: which characters of a face are small
-/

namespace ClockFace

/-! ## Styles on characters -/

namespace StyledText

/-- A run puts a style on the character at an offset. -/
def Lies (r : StyleRun) (style : String) (offset : Nat) : Prop :=
  r.style = style ∧ r.start ≤ offset ∧ offset < r.stop

/-- A style lies on the character at an offset. -/
def HasStyle (t : StyledText) (style : String) (offset : Nat) : Prop :=
  ∃ r ∈ t.runs, Lies r style offset

instance (r : StyleRun) (style : String) (offset : Nat) : Decidable (Lies r style offset) :=
  inferInstanceAs (Decidable (_ ∧ _))

instance (t : StyledText) (style : String) (offset : Nat) : Decidable (t.HasStyle style offset) :=
  inferInstanceAs (Decidable (∃ r ∈ t.runs, _))

/-- No style runs past the end of the text. -/
def Fits (t : StyledText) : Prop :=
  ∀ r ∈ t.runs, r.stop ≤ t.plain.length

variable {t a b : StyledText} {r : StyleRun} {style other : String} {start stop offset : Nat}

theorem HasStyle.lt_length (h : t.HasStyle style offset) (ht : t.Fits) :
    offset < t.plain.length := by
  obtain ⟨r, hr, -, -, hstop⟩ := h
  exact Nat.lt_of_lt_of_le hstop (ht r hr)

/-! ### Putting styles on -/

theorem fits_ofText (text : List Char) (base : String) : (ofText text base).Fits :=
  fun _ hr => nomatch hr

theorem fits_stylize (h : t.Fits) (style : String) (start stop : Nat) :
    (t.stylize style start stop).Fits := by
  rw [stylize]
  split
  · exact h
  · intro r hr
    obtain hr | hr := List.mem_append.1 hr
    · exact h r hr
    · obtain rfl := List.mem_singleton.1 hr
      exact Nat.min_le_right _ _

@[simp] theorem base_stylize (t : StyledText) (style : String) (start stop : Nat) :
    (t.stylize style start stop).base = t.base := by
  rw [stylize]
  split <;> rfl

/-- A new style lies on the characters that it is put on, and every other one where it lay. -/
theorem hasStyle_stylize (hstyle : style ≠ "") (hoffset : offset < t.plain.length) :
    (t.stylize style start stop).HasStyle other offset ↔
      t.HasStyle other offset ∨ (style = other ∧ start ≤ offset ∧ offset < stop) := by
  have hempty : style.isEmpty = false := by simpa using hstyle
  rw [stylize]
  split
  · next hnone =>
    rw [hempty, Bool.false_or, Bool.or_eq_true, decide_eq_true_eq, decide_eq_true_eq] at hnone
    refine (or_iff_left ?_).symm
    omega
  · simp only [HasStyle, List.mem_append, List.mem_singleton, or_and_right, exists_or,
      exists_eq_left]
    refine or_congr_right (and_congr_right fun _ => ?_)
    dsimp only
    omega

/-! ### Cutting -/

/-- The part of a style between two offsets lies on the characters there that the style lies on. -/
theorem lies_cutRun?_iff :
    (∃ cut, cutRun? start stop r = some cut ∧ Lies cut style offset) ↔
      start + offset < stop ∧ Lies r style (start + offset) := by
  simp only [cutRun?, Lies]
  split
  · simp only [Option.some.injEq, exists_eq_left']
    constructor
    · rintro ⟨rfl, hfirst, hlast⟩
      exact ⟨by omega, rfl, by omega⟩
    · rintro ⟨hstop, rfl, hfirst, hlast⟩
      exact ⟨rfl, by omega⟩
  · simp only [reduceCtorEq, false_and, exists_false, false_iff]
    omega

/-- A cut leaves the styles of the characters that it leaves. -/
theorem hasStyle_slice :
    (t.slice start stop).HasStyle style offset ↔
      start + offset < min stop t.plain.length ∧ t.HasStyle style (start + offset) := by
  constructor
  · rintro ⟨cut, hcut, hlies⟩
    obtain ⟨r, hr, hcut⟩ := List.mem_filterMap.1 hcut
    obtain ⟨hstop, hlies⟩ := lies_cutRun?_iff.1 ⟨cut, hcut, hlies⟩
    exact ⟨hstop, r, hr, hlies⟩
  · rintro ⟨hstop, r, hr, hlies⟩
    obtain ⟨cut, hcut, hlies⟩ := lies_cutRun?_iff.2 ⟨hstop, hlies⟩
    exact ⟨cut, List.mem_filterMap.2 ⟨r, hr, hcut⟩, hlies⟩

theorem fits_slice (t : StyledText) (start stop : Nat) : (t.slice start stop).Fits := by
  intro cut hcut
  obtain ⟨r, -, hcut⟩ := List.mem_filterMap.1 hcut
  simp only [cutRun?] at hcut
  split at hcut
  · obtain rfl := Option.some.inj hcut
    rw [plain_slice, List.length_drop, List.length_take]
    exact Nat.sub_le_sub_right (Nat.min_le_right _ _) _
  · cases hcut

/-! ### Joining -/

theorem lies_shift_iff {distance : Nat} :
    Lies (StyleRun.shift distance r) style offset ↔
      distance ≤ offset ∧ Lies r style (offset - distance) := by
  simp only [Lies, StyleRun.shift]
  constructor
  · rintro ⟨hstyle, hstart, hstop⟩
    exact ⟨by omega, hstyle, by omega, by omega⟩
  · rintro ⟨hdistance, hstyle, hstart, hstop⟩
    exact ⟨hstyle, by omega, by omega⟩

/-- The styles of a text that has moved along. -/
theorem exists_lies_shift_iff {runs : List StyleRun} {distance : Nat} :
    (∃ r ∈ runs.map (StyleRun.shift distance), Lies r style offset) ↔
      distance ≤ offset ∧ ∃ r ∈ runs, Lies r style (offset - distance) := by
  constructor
  · rintro ⟨moved, hmoved, hlies⟩
    obtain ⟨r, hr, rfl⟩ := List.mem_map.1 hmoved
    obtain ⟨hdistance, hlies⟩ := lies_shift_iff.1 hlies
    exact ⟨hdistance, r, hr, hlies⟩
  · rintro ⟨hdistance, r, hr, hlies⟩
    exact ⟨_, List.mem_map.2 ⟨r, hr, rfl⟩, lies_shift_iff.2 ⟨hdistance, hlies⟩⟩

/-- Joined texts have their styles, each on its part. Only the base style of the second one is
new there. -/
theorem hasStyle_append (ha : a.Fits) (hb : b.Fits) (hbase : style ≠ b.base) :
    (a.append b).HasStyle style offset ↔
      if offset < a.plain.length then a.HasStyle style offset
      else b.HasStyle style (offset - a.plain.length) := by
  have hjoined : (a.append b).HasStyle style offset ↔
      a.HasStyle style offset ∨
        (a.plain.length ≤ offset ∧ b.HasStyle style (offset - a.plain.length)) := by
    rw [append]
    split
    · next hempty =>
      -- Nothing is joined, and an empty text that fits has no styles
      refine (or_iff_left fun h => ?_).symm
      have hlength := h.2.lt_length hb
      rw [List.isEmpty_iff.1 hempty] at hlength
      exact Nat.not_lt_zero _ hlength
    · have hnew : ¬∃ r ∈ (if b.base.isEmpty then [] else
          [(⟨a.plain.length, a.plain.length + b.plain.length, b.base⟩ : StyleRun)]),
          Lies r style offset := by
        rintro ⟨r, hr, rfl, -⟩
        split at hr
        · cases hr
        · exact hbase (congrArg StyleRun.style (List.mem_singleton.1 hr))
      simp only [HasStyle, List.mem_append, or_and_right, exists_or, or_iff_left hnew,
        exists_lies_shift_iff]
  rw [hjoined]
  split
  · next hbefore => exact or_iff_left fun h => absurd h.1 (Nat.not_le_of_lt hbefore)
  · next hbehind =>
    rw [or_iff_right fun h => hbehind (h.lt_length ha), and_iff_right (Nat.le_of_not_lt hbehind)]

theorem fits_append (ha : a.Fits) (hb : b.Fits) : (a.append b).Fits := by
  intro r hr
  rw [plain_append, List.length_append]
  rw [append] at hr
  split at hr
  · exact Nat.le_trans (ha r hr) (Nat.le_add_right _ _)
  · obtain hr | hr := List.mem_append.1 hr
    · obtain hr | hr := List.mem_append.1 hr
      · exact Nat.le_trans (ha r hr) (Nat.le_add_right _ _)
      · split at hr
        · cases hr
        · obtain rfl := List.mem_singleton.1 hr
          exact Nat.le_refl _
    · obtain ⟨moved, hmoved, rfl⟩ := List.mem_map.1 hr
      rw [Nat.add_comm]
      exact Nat.add_le_add_right (hb moved hmoved) _

@[simp] theorem base_append (a b : StyledText) : (a.append b).base = a.base := by
  rw [append]
  split <;> rfl

/-! ### Deleting -/

theorem base_delete (t : StyledText) (start stop : Nat) : (t.delete start stop).base = t.base :=
  base_append _ _

theorem fits_delete (t : StyledText) (start stop : Nat) : (t.delete start stop).Fits :=
  fits_append (fits_slice _ _ _) (fits_slice _ _ _)

/-- A deletion leaves the styles of the characters before it, and brings those of the characters
behind it to the front. -/
theorem hasStyle_delete (ht : t.Fits) (hbase : style ≠ t.base) (h : start ≤ stop) :
    (t.delete start stop).HasStyle style offset ↔
      t.HasStyle style (if offset < start then offset else offset + (stop - start)) := by
  have hlength : (t.slice 0 start).plain.length = min start t.plain.length := by
    rw [plain_slice, List.drop_zero, List.length_take]
  rw [delete, hasStyle_append (fits_slice _ _ _) (fits_slice _ _ _) hbase, hlength, hasStyle_slice,
    hasStyle_slice, Nat.zero_add, Nat.min_self]
  by_cases hstart : offset < start
  · rw [if_pos hstart]
    split
    · next hbefore => exact and_iff_right hbefore
    · -- The text ends before the deletion
      refine iff_of_false (fun hboth => by omega) fun hlies => ?_
      have hlies := hlies.lt_length ht
      omega
  · rw [if_neg hstart, if_neg (by omega)]
    constructor
    · rintro ⟨hstop, hlies⟩
      rwa [show offset + (stop - start) = stop + (offset - min start t.plain.length) by omega]
    · intro hlies
      have hend := hlies.lt_length ht
      rw [show stop + (offset - min start t.plain.length) = offset + (stop - start) by omega]
      exact ⟨hend, hlies⟩

end StyledText

/-! ## Places -/

namespace Span

/-- Where the character at an offset stands among those under none of the spans. -/
def place (spans : List Span) (offset : Nat) : Nat :=
  (List.range offset).countP (bare spans)

variable {s : Span} {rest spans : List Span} {offset : Nat}

theorem place_le (spans : List Span) (offset : Nat) : place spans offset ≤ offset := by
  have hle := List.countP_le_length (p := bare spans) (l := List.range offset)
  rwa [List.length_range] at hle

/-- Characters in front of all spans keep their places. -/
theorem place_eq_self (h : ∀ s ∈ spans, offset ≤ s.start) : place spans offset = offset := by
  rw [place, List.countP_eq_length.2, List.length_range]
  intro k hk
  rw [List.mem_range] at hk
  rw [bare_iff]
  intro s hs
  have hstart := h s hs
  rw [covers_eq_false_iff]
  omega

theorem place_mono (spans : List Span) {a b : Nat} (h : a ≤ b) : place spans a ≤ place spans b :=
  (List.range_sublist.2 h).countP_le

/-- How many characters in front of an offset lie under a span. -/
theorem countP_covers (s : Span) (offset : Nat) :
    (List.range offset).countP s.covers = min offset s.stop - min offset s.start := by
  have hspan := s.start_le_stop
  induction offset with
  | zero => rw [List.range_zero, List.countP_nil, Nat.zero_min, Nat.zero_min]
  | succ offset ih =>
    rw [List.range_succ, List.countP_append, List.countP_singleton, ih]
    by_cases hcovers : s.covers offset = true
    · rw [if_pos hcovers]
      rw [covers_iff] at hcovers
      omega
    · rw [if_neg hcovers]
      rw [covers_iff] at hcovers
      omega

/-- One more span, apart from the others, moves a character as far to the front as characters in
front of it lie under the span. -/
theorem place_cons (h : ∀ t ∈ rest, s.Apart t) (offset : Nat) :
    place rest offset =
      place (s :: rest) offset + (min offset s.stop - min offset s.start) := by
  rw [← countP_covers, place, place]
  induction offset with
  | zero => rfl
  | succ offset ih =>
    simp only [List.range_succ, List.countP_append, List.countP_singleton, ih]
    have hone : (if bare rest offset = true then 1 else 0) =
        (if bare (s :: rest) offset = true then 1 else 0) +
          if s.covers offset = true then 1 else 0 := by
      rw [bare_cons]
      cases hcovers : s.covers offset with
      | false => simp
      | true =>
        -- What lies under the span lies under none of the others
        have hbare : bare rest offset = true :=
          bare_iff.2 fun t ht => apart_iff.1 (h t ht) offset hcovers
        simp [hbare]
    omega

end Span

/-! ## Deletions -/

namespace StyledText

/-- The styled text without the runs of some spans, each deleted at its offsets, the last one
first. -/
def deleteAll (spans : List Span) (t : StyledText) : StyledText :=
  spans.foldr (fun s t => t.delete s.start s.stop) t

variable {t : StyledText} {spans : List Span} {style : String} {offset : Nat}

theorem base_deleteAll (spans : List Span) (t : StyledText) :
    (deleteAll spans t).base = t.base := by
  induction spans with
  | nil => rfl
  | cons s rest ih => exact (base_delete _ _ _).trans ih

theorem fits_deleteAll (h : t.Fits) (spans : List Span) : (deleteAll spans t).Fits := by
  cases spans with
  | nil => exact h
  | cons s rest => exact fits_delete _ _ _

/-- A character under none of the spans, which lie apart, keeps its styles. -/
theorem hasStyle_deleteAll (ht : t.Fits) (hbase : style ≠ t.base)
    (hsorted : spans.Pairwise fun s t => s.start ≤ t.start) (hapart : spans.Pairwise Span.Apart)
    (hbare : Span.bare spans offset = true) :
    (deleteAll spans t).HasStyle style (Span.place spans offset) ↔ t.HasStyle style offset := by
  induction spans with
  | nil =>
    rw [Span.place_eq_self (List.forall_mem_nil _)]
    rfl
  | cons s rest ih =>
    have hspan := s.start_le_stop
    rw [List.pairwise_cons] at hsorted hapart
    rw [Span.bare_cons, Bool.and_eq_true, Bool.not_eq_true', Span.covers_eq_false_iff] at hbare
    have hplace := Span.place_cons hapart.1 offset
    have hbase' : style ≠ (deleteAll rest t).base := by rwa [base_deleteAll]
    rw [← ih hsorted.2 hapart.2 hbare.2]
    show ((deleteAll rest t).delete s.start s.stop).HasStyle _ _ ↔ _
    rw [hasStyle_delete (fits_deleteAll ht rest) hbase' hspan]
    obtain hbefore | hstart := Nat.lt_or_ge offset s.start
    · -- In front of the first span nothing moves
      have hle := Span.place_le (s :: rest) offset
      rw [if_pos (Nat.lt_of_le_of_lt hle hbefore)]
      rw [Nat.min_eq_left (by omega), Nat.min_eq_left (by omega), Nat.sub_self,
        Nat.add_zero] at hplace
      rw [hplace]
    · -- Behind it, all in front of its start is in front of the character too
      have hstop := hbare.1 hstart
      have hfirst : ∀ t ∈ s :: rest, s.start ≤ t.start :=
        List.forall_mem_cons.2 ⟨Nat.le_refl _, hsorted.1⟩
      have hge := Span.place_mono (s :: rest) hstart
      rw [Span.place_eq_self hfirst] at hge
      rw [if_neg (Nat.not_lt_of_le hge)]
      rw [Nat.min_eq_right hstop, Nat.min_eq_right hstart] at hplace
      rw [hplace]

end StyledText

/-! ## Faces -/

namespace Face

theorem styled_eq_deleteAll (f : Face) (smallStyle baseStyle : String) :
    f.styled smallStyle baseStyle =
      StyledText.deleteAll f.deletions.reverse (f.styleSmall smallStyle baseStyle) :=
  List.foldr_reverse.symm

/-- Small runs are styled where they lie, over any others. -/
theorem styleSmall_run (f : Face) (htext : f.text.any StyledText.isControl = false)
    {smallStyle : String} (hsmall : smallStyle ≠ "") (baseStyle : String) :
    let t := f.styleSmall smallStyle baseStyle
    t.base = baseStyle ∧ t.Fits ∧ ∀ offset < f.text.length,
      (t.HasStyle smallStyle offset ↔
        ∃ s ∈ f.spans, s.action.shrinks = true ∧ s.covers offset = true) := by
  -- The induction goes over the small runs, from any text of that length that fits
  have hrun (spans : List Span) (t : StyledText) (ht : t.Fits)
      (hlength : t.plain.length = f.text.length) :
      let styled := spans.foldl (fun t s => t.stylize smallStyle s.start s.stop) t
      styled.base = t.base ∧ styled.Fits ∧ ∀ offset < f.text.length,
        (styled.HasStyle smallStyle offset ↔
          t.HasStyle smallStyle offset ∨ ∃ s ∈ spans, s.covers offset = true) := by
    induction spans generalizing t with
    | nil => exact ⟨rfl, ht, fun offset _ => by simp⟩
    | cons s rest ih =>
      obtain ⟨hbase, hfits, hstyle⟩ := ih (t.stylize smallStyle s.start s.stop)
        (StyledText.fits_stylize ht _ _ _) (by rw [StyledText.plain_stylize, hlength])
      refine ⟨hbase.trans (StyledText.base_stylize ..), hfits, fun offset hoffset => ?_⟩
      rw [List.foldl_cons, hstyle offset hoffset,
        StyledText.hasStyle_stylize hsmall (by rwa [hlength]), or_assoc]
      simp only [List.mem_cons, or_and_right, exists_or, exists_eq_left, Span.covers_iff, true_and]
  intro t
  obtain ⟨hbase, hfits, hstyle⟩ := hrun (f.spans.filter (·.action.shrinks))
    (StyledText.ofText f.text baseStyle) (StyledText.fits_ofText _ _)
    (by rw [StyledText.plain_ofText htext])
  refine ⟨hbase, hfits, fun offset hoffset => ?_⟩
  have hnone : ¬(StyledText.ofText f.text baseStyle).HasStyle smallStyle offset := by
    rintro ⟨r, hr, -⟩
    cases hr
  refine (hstyle offset hoffset).trans ?_
  rw [or_iff_right hnone]
  simp only [List.mem_filter, and_assoc]

/-- Small styling stays on its characters when runs are deleted.

For a face without control characters whose delete spans lie apart, a terminal shows just the
characters under none of these. All of them have the base style. The style of small runs, which
is another one, lies on a character exactly if a small run of the face does, however the runs
overlap each other or the delete spans, and wherever they end. -/
theorem hasStyle_styled (f : Face) (smallStyle baseStyle : String)
    (htext : f.text.any StyledText.isControl = false)
    (hapart : f.deleteSpans.Pairwise Span.Apart) (hsmall : smallStyle ≠ "")
    (hbase : smallStyle ≠ baseStyle) :
    let t := f.styled smallStyle baseStyle
    t.plain = f.undeleted ∧ t.base = baseStyle ∧
      ∀ offset c, f.text[offset]? = some c → Span.bare f.deleteSpans offset = true →
        t.plain[Span.place f.deleteSpans offset]? = some c ∧
          (t.HasStyle smallStyle (Span.place f.deleteSpans offset) ↔
            ∃ s ∈ f.spans, s.action.shrinks = true ∧ s.covers offset = true) := by
  intro t
  have hperm := f.deletions_reverse_perm
  have hplain : t.plain = f.undeleted := by
    have hbefore : Span.ApartBefore f.deletions.reverse f.text :=
      (Span.apartBefore_perm hperm f.text).2 fun offset _ _ => hapart.filter _
    rw [plain_styled htext, undeleted, ← Span.bare_perm hperm]
    exact (Span.cutAll_eq_iff f.pairwise_deletions_reverse).2 hbefore
  obtain ⟨hbase', hfits, hstyle⟩ := styleSmall_run f htext hsmall baseStyle
  have hdeleted : t = _ := styled_eq_deleteAll f smallStyle baseStyle
  refine ⟨hplain, ?_, fun offset c hc hbare => ⟨?_, ?_⟩⟩
  · rw [hdeleted, StyledText.base_deleteAll, hbase']
  · obtain ⟨hoffset, -⟩ := List.getElem?_eq_some_iff.1 hc
    rw [hplain, undeleted, Span.place, Text.getElem?_kept hoffset hbare, hc]
  · obtain ⟨hoffset, -⟩ := List.getElem?_eq_some_iff.1 hc
    have hplace : Span.place f.deleteSpans offset = Span.place f.deletions.reverse offset := by
      rw [Span.place, Span.place, Span.bare_perm hperm]
    rw [hplace, hdeleted, ← hstyle offset hoffset]
    refine StyledText.hasStyle_deleteAll hfits (by rwa [hbase']) f.pairwise_deletions_reverse
      ((hperm.pairwise_iff Span.Apart.symm).2 hapart) ?_
    rwa [Span.bare_perm hperm]

/-- Two small runs overlap, and both run into delete spans. Of the date only the last letter is
small, and so is all that is left of the time. -/
theorem hasStyle_styled_overlapping :
    let f : Face := {
      text := "Wed 3:04 PM".toList
      spans := [⟨.dateEmphasis, 2, 6, .resize SpanAction.smallFactor, by decide⟩,
        ⟨.dateEmphasis, 3, 4, .delete, by decide⟩,
        ⟨.amPmEmphasis, 4, 9, .resize SpanAction.smallFactor, by decide⟩,
        ⟨.amPmEmphasis, 8, 14, .delete, by decide⟩]
      spoken := "3:04 PM".toList }
    let t := f.styled "dim" "bold"
    f.text.any StyledText.isControl = false ∧ f.deleteSpans.Pairwise Span.Apart ∧
      "dim" ≠ "" ∧ "dim" ≠ "bold" ∧ t.plain = "Wed3:04".toList ∧ t.base = "bold" ∧
      ¬t.HasStyle "dim" 1 ∧ t.plain[3]? = some '3' ∧ t.HasStyle "dim" 3 := by
  intro f t
  have htext : f.text.any StyledText.isControl = false := by decide
  have hapart : f.deleteSpans.Pairwise Span.Apart := by decide +kernel
  obtain ⟨hplain, hbase, hstyle⟩ :=
    hasStyle_styled f "dim" "bold" htext hapart (by decide) (by decide)
  obtain ⟨-, hfirst⟩ := hstyle 1 'e' rfl (by decide +kernel)
  obtain ⟨hchar, hsecond⟩ := hstyle 4 '3' rfl (by decide +kernel)
  have hplace : Span.place f.deleteSpans 1 = 1 ∧ Span.place f.deleteSpans 4 = 3 := by
    decide +kernel
  rw [hplace.1] at hfirst
  rw [hplace.2] at hchar hsecond
  have hundeleted : f.undeleted = "Wed3:04".toList := by decide +kernel
  exact ⟨htext, hapart, by decide, by decide, hplain.trans hundeleted, hbase,
    fun h => absurd (hfirst.1 h) (by decide +kernel), hchar, hsecond.2 (by decide +kernel)⟩

end Face

end ClockFace
