import ClockFace.Proofs.DateBeside
import ClockFace.Proofs.FaceSource
import ClockFace.Proofs.MarkerLeak
import ClockFace.Proofs.PatternText

/-! # Faces with a small AM/PM run

A small run is shown as it is written, in a smaller size. What is written comes from the
pattern with the run marked, in which the AM/PM letter stands alone between the markers:
of a field of several letters, the rest becomes a field of its own behind them, and the
AM/PM text is written twice. So the text stays what it is without the marking exactly if
the letter is not repeated (`Marker.Single`).

## Key results

- `Field.amPm_ne_append`: what becomes of several AM/PM letters once the first is cut off
- `FieldSplit.settledText_marked_iff`: what is left of the marked pattern's text
- `resolve_render_small_iff`: when a small run leaves the text as it is
-/

namespace ClockFace

open Marker Pattern

/-- The first AM/PM letter outside quotations is not followed by another one. -/
def Marker.Single (pattern : List Char) : Prop :=
  ∀ i ∈ find? pattern, pattern[i + 1]? ≠ some amPmLetter

instance (pattern : List Char) : Decidable (Single pattern) :=
  inferInstanceAs (Decidable (∀ i ∈ find? pattern, pattern[i + 1]? ≠ some amPmLetter))

/-! ## AM/PM texts -/

/-- What several AM/PM letters write together is not what the first and the others write. -/
def LocaleData.TellsRepeated (d : LocaleData) : Prop :=
  ∀ id ∈ ["am", "pm"], ∀ n < 4,
    ∀ one ∈ Field.periodName? 1 d.periods.format id,
    ∀ more ∈ Field.periodName? (n + 1) d.periods.format id,
    ∀ all ∈ Field.periodName? (n + 2) d.periods.format id,
      one.toList ++ more.toList ≠ all.toList

instance (d : LocaleData) : Decidable d.TellsRepeated :=
  inferInstanceAs (Decidable (∀ id ∈ ["am", "pm"], _))

theorem LocaleData.tellsRepeated_of_mem : ∀ d ∈ all, d.TellsRepeated := by
  decide +kernel

/-- In the locales with data the AM/PM names tell repeated letters. -/
theorem Locale.tellsRepeated_of_ofTag {tag : String} {l : Locale} (h : ofTag tag = .ok l) :
    l.data.TellsRepeated :=
  LocaleData.tellsRepeated_of_mem _ (data_mem_all h)

namespace Field

/-- The half of the day that an instant lies in. -/
def halfOfDay (instant : Instant) : String :=
  if instant.hour < 12 then "am" else "pm"

/-- The AM/PM field names the half of the day. -/
theorem write_amPm (length : Nat) (locale : Locale) (instant : Instant) :
    write amPmLetter length locale instant =
      period locale length locale.data.periods.format (halfOfDay instant) := rfl

theorem mem_halfOfDay (instant : Instant) : halfOfDay instant ∈ ["am", "pm"] := by
  rw [halfOfDay]
  split <;> decide

theorem exists_periodName?_of_write {length : Nat} {locale : Locale} {instant : Instant}
    {text : List Char} (h : write amPmLetter length locale instant = .ok text) :
    ∃ name ∈ periodName? length locale.data.periods.format (halfOfDay instant),
      name.toList = text := by
  rw [write_amPm, period] at h
  split at h
  · next name hname => exact ⟨name, hname, Except.ok.inj h⟩
  · cases h

theorem amPm_ne_append {locale : Locale} (hrepeated : locale.data.TellsRepeated)
    {instant : Instant} {n : Nat} (hn : isAllowed amPmLetter (n + 2) = true)
    {one more all : List Char} (hone : write amPmLetter 1 locale instant = .ok one)
    (hmore : write amPmLetter (n + 1) locale instant = .ok more)
    (hall : write amPmLetter (n + 2) locale instant = .ok all) : one ++ more ≠ all := by
  have hle : n + 2 ≤ 5 := of_decide_eq_true hn
  obtain ⟨oneName, honeName, rfl⟩ := exists_periodName?_of_write hone
  obtain ⟨moreName, hmoreName, rfl⟩ := exists_periodName?_of_write hmore
  obtain ⟨allName, hallName, rfl⟩ := exists_periodName?_of_write hall
  exact hrepeated _ (mem_halfOfDay instant) n (by omega) oneName honeName moreName hmoreName
    allName hallName

end Field

/-! ## Writing tokens -/

namespace Token

/-- A letter that is not repeated is a field on its own. -/
theorem joinField_of_head?_ne {letter : Char} {rest : List Char}
    (h : rest.head? ≠ some letter) :
    joinField letter (tokensOf rest) = .field letter 1 :: tokensOf rest := by
  cases htokens : tokensOf rest with
  | nil => rfl
  | cons token more =>
    cases token with
    | text c => rfl
    | field other n =>
      have hne : letter ≠ other := by
        rintro rfl
        exact h (head?_of_tokensOf htokens)
      rw [joinField, if_neg hne]

/-- A letter that is put before tokens begins a field. -/
theorem exists_joinField_eq (letter : Char) (tokens : List Token) :
    ∃ n rest, joinField letter tokens = .field letter (n + 1) :: rest := by
  match tokens with
  | [] => exact ⟨0, [], rfl⟩
  | .text c :: rest => exact ⟨0, .text c :: rest, rfl⟩
  | .field other n :: rest =>
    rw [joinField]
    split
    · exact ⟨n, rest, rfl⟩
    · exact ⟨0, .field other n :: rest, rfl⟩

/-- AM/PM letters begin a pattern as one field. -/
theorem exists_tokensOf_of_head? {pattern : List Char} (h : pattern.head? = some amPmLetter) :
    ∃ n rest, tokensOf pattern = .field amPmLetter (n + 1) :: rest := by
  obtain ⟨more, rfl⟩ := List.head?_eq_some_iff.1 h
  rw [tokensOf_cons_field (by decide) FieldSplit.unquoted_amPmLetter more]
  exact exists_joinField_eq amPmLetter (tokensOf more)

end Token

namespace Pattern

variable {locale : Locale} {instant : Instant}

/-- What can be written compiles. -/
theorem check_of_writeText {pattern text : List Char}
    (h : writeText pattern locale instant = .ok text) : check (tokensOf pattern) = .ok () := by
  obtain ⟨p, hcompile, -⟩ := of_bind_eq_ok h
  exact (compile_eq_ok_iff.1 hcompile).1

/-- Without markers in their literal text, tokens write none. -/
theorem free_of_writeTokens (hlocale : locale.Free) {tokens : List Token}
    {text : List Char} (hfree : Free (literals tokens))
    (h : writeTokens locale instant tokens = .ok text) : Free text := by
  rw [← among_eq_nil_iff, among_writeTokens hlocale h,
    among_eq_nil_iff]
  exact hfree

/-- A pattern without markers writes none. -/
theorem free_of_writeText (hlocale : locale.Free) {pattern text : List Char}
    (hfree : Free pattern) (h : writeText pattern locale instant = .ok text) : Free text := by
  rw [writeText_of_check (check_of_writeText h)] at h
  exact free_of_writeTokens hlocale (free_literals hfree) h

/-- Tokens that can be written come after a first one that can. -/
theorem writeTokens_cons_eq_ok {t : Token} {tokens : List Token} {text : List Char}
    (h : writeTokens locale instant (t :: tokens) = .ok text) :
    ∃ first more, t.write locale instant = .ok first ∧
      writeTokens locale instant tokens = .ok more ∧ text = first ++ more := by
  rw [writeTokens] at h
  split at h
  · cases h
  · next first hfirst =>
    split at h
    · cases h
    · next more hmore => exact ⟨first, more, hfirst, hmore, (Except.ok.inj h).symm⟩

/-- Two rows of tokens that can be written can be written one by one. -/
theorem writeTokens_append_eq_ok {a b : List Token} {text : List Char}
    (h : writeTokens locale instant (a ++ b) = .ok text) :
    ∃ first more, writeTokens locale instant a = .ok first ∧
      writeTokens locale instant b = .ok more ∧ text = first ++ more := by
  rw [writeTokens_append] at h
  split at h
  · cases h
  · next first hfirst =>
    split at h
    · cases h
    · next more hmore => exact ⟨first, more, hfirst, hmore, (Except.ok.inj h).symm⟩

/-- Text is written as it is. -/
theorem writeTokens_text_append_eq_ok {said : List Char} {tokens : List Token} {text : List Char}
    (h : writeTokens locale instant (said.map Token.text ++ tokens) = .ok text) :
    ∃ more, writeTokens locale instant tokens = .ok more ∧ text = said ++ more := by
  rw [FieldSplit.writeTokens_text_append] at h
  obtain ⟨more, hmore, rfl⟩ := of_map_eq_ok h
  exact ⟨more, hmore, rfl⟩

/-- A letter that is not repeated is written on its own before the rest. -/
theorem eq_append_of_write_joinField {rest : List Char}
    (hsingle : rest.head? ≠ some amPmLetter) {one alone joined : List Char}
    (hone : Field.write amPmLetter 1 locale instant = .ok one)
    (halone : writeTokens locale instant (tokensOf rest) = .ok alone)
    (hjoined : writeTokens locale instant (Token.joinField amPmLetter (tokensOf rest)) =
      .ok joined) : joined = one ++ alone := by
  rw [Token.joinField_of_head?_ne hsingle] at hjoined
  obtain ⟨first, behind, hfirst, hbehind, rfl⟩ := writeTokens_cons_eq_ok hjoined
  obtain rfl := Except.ok.inj (hone.symm.trans hfirst)
  obtain rfl := Except.ok.inj (halone.symm.trans hbehind)
  rfl

/-- Writing the AM/PM letter on its own before the rest is writing them together exactly if
the rest does not begin with the letter. -/
theorem append_eq_write_joinField_iff {rest : List Char}
    (hrepeated : rest.head? = some amPmLetter → locale.data.TellsRepeated)
    (hcheck : check (Token.joinField amPmLetter (tokensOf rest)) = .ok ())
    {one alone joined : List Char} (hone : Field.write amPmLetter 1 locale instant = .ok one)
    (halone : writeTokens locale instant (tokensOf rest) = .ok alone)
    (hjoined : writeTokens locale instant (Token.joinField amPmLetter (tokensOf rest)) =
      .ok joined) :
    one ++ alone = joined ↔ rest.head? ≠ some amPmLetter := by
  constructor
  · intro heq hrepeat
    -- The letters are two fields on the one side, and one longer field on the other
    obtain ⟨n, tokens, hfield⟩ := Token.exists_tokensOf_of_head? hrepeat
    rw [hfield, Token.joinField, if_pos rfl] at hcheck hjoined
    rw [hfield] at halone
    obtain ⟨short, behind, hshort, hbehind, rfl⟩ := writeTokens_cons_eq_ok halone
    obtain ⟨long, _, hlong, hsame, rfl⟩ := writeTokens_cons_eq_ok hjoined
    obtain rfl := Except.ok.inj (hbehind.symm.trans hsame)
    have hallowed : Field.isAllowed amPmLetter (n + 2) = true := by
      rw [check] at hcheck
      split at hcheck
      · assumption
      · cases hcheck
    rw [← List.append_assoc] at heq
    exact Field.amPm_ne_append (hrepeated hrepeat) hallowed hone hshort hlong
      (List.append_cancel_right heq)
  · intro hsingle
    exact (eq_append_of_write_joinField hsingle hone halone hjoined).symm

end Pattern

/-! ## Settling -/

namespace Marker

/-- A pattern that is split around its AM/PM field is single if the field is not followed by
another of the letter. -/
theorem single_iff_of_find? {pattern : List Char} {i : Nat} (h : find? pattern = some i) :
    Single pattern ↔ (pattern.drop (i + 1)).head? ≠ some amPmLetter := by
  rw [List.head?_drop, Single, h]
  exact ⟨fun hall => hall i rfl, fun hne j hj => Option.some.inj hj ▸ hne⟩

theorem single_of_find?_eq_none {pattern : List Char} (h : find? pattern = none) :
    Single pattern := by
  intro i hi
  rw [h] at hi
  cases hi

namespace FieldSplit

variable {locale : Locale} {instant : Instant}

/-- What the pattern writes: the field goes together with what follows. -/
theorem writeTokens_pattern_eq_ok (f : FieldSplit) {text : List Char}
    (h : writeTokens locale instant (tokensOf f.pattern) = .ok text) :
    ∃ before joined, writeTokens locale instant (tokensOf f.before) = .ok before ∧
      writeTokens locale instant (Token.joinField amPmLetter (tokensOf f.rest)) = .ok joined ∧
      text = before ++ (f.blanks ++ joined) := by
  rw [f.tokensOf_pattern] at h
  obtain ⟨before, _, hbefore, htail, rfl⟩ := writeTokens_append_eq_ok h
  obtain ⟨joined, hjoined, rfl⟩ := writeTokens_text_append_eq_ok htail
  exact ⟨before, joined, hbefore, hjoined, rfl⟩

/-- What the marked pattern writes: the field stands alone between the markers. -/
theorem writeTokens_marked_eq_ok (f : FieldSplit) {text : List Char}
    (h : writeTokens locale instant (tokensOf f.marked) = .ok text) :
    ∃ before one rest, writeTokens locale instant (tokensOf f.before) = .ok before ∧
      Field.write amPmLetter 1 locale instant = .ok one ∧
      writeTokens locale instant (tokensOf f.rest) = .ok rest ∧
      text = before ++ opening :: (f.blanks ++ one ++ closing :: rest) := by
  rw [f.tokensOf_marked] at h
  obtain ⟨before, _, hbefore, hmarked, rfl⟩ := writeTokens_append_eq_ok h
  obtain ⟨_, _, hopening, hrun, rfl⟩ := writeTokens_cons_eq_ok hmarked
  obtain rfl := Except.ok.inj hopening
  obtain ⟨_, hfield, rfl⟩ := writeTokens_text_append_eq_ok hrun
  obtain ⟨one, _, hone, hclosed, rfl⟩ := writeTokens_cons_eq_ok hfield
  obtain ⟨_, rest, hclosing, hrest, rfl⟩ := writeTokens_cons_eq_ok hclosed
  obtain rfl := Except.ok.inj hclosing
  exact ⟨before, one, rest, hbefore, hone, hrest, by simp⟩

/-- What is left of the text of the marked pattern once the run is shown is the text of the
pattern exactly if its AM/PM letter is not repeated. -/
theorem settledText_marked_iff (f : FieldSplit) (hlocale : locale.Free)
    (hrepeated : f.rest.head? = some amPmLetter → locale.data.TellsRepeated)
    (hfree : Free (literals (tokensOf f.pattern)))
    (hcheck : check (tokensOf f.pattern) = .ok ())
    {shown plain : List Char} (hshown : writeText f.marked locale instant = .ok shown)
    (hplain : writeText f.pattern locale instant = .ok plain) :
    Emphasis.small.settledText shown = plain ↔ f.rest.head? ≠ some amPmLetter := by
  rw [writeText_of_check (f.check_parts hcheck).2.2] at hshown
  rw [writeText_of_check hcheck] at hplain
  rw [f.tokensOf_pattern, literals_append, literals_append, literals_text, free_append,
    free_append] at hfree
  rw [f.tokensOf_pattern, check_append_eq_ok_iff, check_text_append] at hcheck
  obtain ⟨before, one, rest, hbefore, hone, hrest, rfl⟩ := f.writeTokens_marked_eq_ok hshown
  obtain ⟨_, joined, hsame, hjoined, rfl⟩ := f.writeTokens_pattern_eq_ok hplain
  obtain rfl := Except.ok.inj (hbefore.symm.trans hsame)
  have hbeforeFree : Free before := free_of_writeTokens hlocale hfree.1 hbefore
  have honeFree : Free one :=
    Marker.Free.of_subset hlocale (Field.write_subset hone)
  -- The search finds the markers that were put in, as there are no others before them
  let m : MarkedText := ⟨before, f.blanks ++ one, rest, hbeforeFree,
    (free_append.2 ⟨hfree.2.1, honeFree⟩).2⟩
  have hleft : Emphasis.small.settledText m.text = before ++ (f.blanks ++ (one ++ rest)) := by
    rw [Face.settledText_text]
    simp [m, MarkedText.shown, Emphasis.runText]
  show Emphasis.small.settledText m.text = _ ↔ _
  rw [hleft, List.append_cancel_left_eq, List.append_cancel_left_eq]
  exact append_eq_write_joinField_iff hrepeated hcheck.2 hone hrest hjoined

end FieldSplit

/-- Showing the run leaves the text of the base pattern exactly if its AM/PM letter is not
repeated. -/
theorem settledText_inject_iff {locale : Locale} {instant : Instant}
    {base shown plain : List Char} (hlocale : locale.Free)
    (hrepeated : ¬ Single base → locale.data.TellsRepeated) (hfree : Free base)
    (hshown : writeText (inject base) locale instant = .ok shown)
    (hplain : writeText base locale instant = .ok plain) :
    Emphasis.small.settledText shown = plain ↔ Single base := by
  cases hfind : find? base with
  | none =>
    -- Nothing is marked, and nothing is settled
    rw [inject_of_find?_eq_none hfind] at hshown
    obtain rfl := Except.ok.inj (hshown.symm.trans hplain)
    rw [Face.settledText_of_free _ (free_of_writeText hlocale hfree hplain)]
    exact iff_of_true rfl (single_of_find?_eq_none hfind)
  | some i =>
    obtain ⟨f, rfl, -, hrest, hinject⟩ := exists_fieldSplit hfind
    rw [hinject] at hshown
    rw [single_iff_of_find? hfind, hrest] at hrepeated ⊢
    exact f.settledText_marked_iff hlocale (fun h => hrepeated (not_not_intro h))
      (free_literals hfree) (check_of_writeText hplain) hshown hplain

end Marker

/-- When a small run leaves the text as it is.

Over patterns and dates without markers, a selector that has been asked anything before
gives formats, in a locale without markers in its texts, and a face with a small run is
rendered with them. Then there is a face with a normal run, too. The two have the same text
exactly if the AM/PM letter of the base pattern is not repeated, and exactly then a small run
without a date reads as it is spoken. Only where the letter is repeated, the AM/PM names of the
locale have to tell it. -/
theorem resolve_render_small_iff {dates : DateWriter} {locales : LocaleSource}
    {skeletons : SkeletonSource} {requests : List Selector.Request} {c : Config}
    {instant : Instant} {small : Face}
    (hskeletons : (FormatSource.ofLocales locales skeletons).Free)
    (hlocales : ∀ locale, locales c.locale = .ok locale → locale.Free)
    (hdate : c.dateVisibility ≠ .none →
      ∀ date, c.layout.writeDate dates instant = .ok date → Marker.Free date)
    (hsmall : (Selector.face (.ofLocales locales skeletons) dates { c with emphasis := .small }
      instant).outcome (Selector.history (.ofLocales locales skeletons) requests) = .ok small)
    (others : List Selector.Request) :
    ∃ normal locale base,
      (Selector.face (.ofLocales locales skeletons) dates { c with emphasis := .normal }
        instant).outcome (Selector.history (.ofLocales locales skeletons) others) = .ok normal ∧
      (FormatSource.ofLocales locales skeletons).base c.patternKey = .ok (locale, base) ∧
      ((¬ Single base → locale.data.TellsRepeated) →
        (small.text = normal.text ↔ Single base) ∧
        (c.dateVisibility = .none → (small.text = small.spoken ↔ Single base))) := by
  rw [Selector.outcome_face (Selector.sound_history _ requests)] at hsmall
  obtain ⟨locale, base, date, time, spoken, hbase, htime, hspoken, hwritten, rfl⟩ :=
    FormatSource.face_eq_ok hsmall
  have hlocale : locale.Free := hlocales locale (FormatSource.locales_of_base hbase)
  have hfree : Marker.Free base := FormatSource.free_of_base hskeletons hbase
  -- The normal face shows as its time what the small one has to read aloud
  let normal : Config := { c with emphasis := .normal }
  have hnormal : (FormatSource.ofLocales locales skeletons).face dates normal instant =
      .ok (normal.face date spoken spoken) :=
    FormatSource.face_of_written hbase hspoken hspoken hwritten
  have hdateFree : c.dateVisibility ≠ .none → Marker.Free date := fun hv =>
    hdate hv date (hwritten hv)
  have hspokenFree : Marker.Free spoken := free_of_writeText hlocale hfree hspoken
  have hsmallText : ({ c with emphasis := .small }.face date time spoken).text =
      c.arrange Face.separator date (Emphasis.small.settledText time) := by
    rw [Face.text_face]
    exact Face.settledText_arrange .small hdateFree time
  have hnormalText : (normal.face date spoken spoken).text =
      c.arrange Face.separator date spoken := by
    rw [Face.text_face]
    show Emphasis.normal.settledText (c.arrange Face.separator date spoken) = _
    rw [Face.settledText_arrange .normal hdateFree, Face.settledText_of_free .normal hspokenFree]
  refine ⟨normal.face date spoken spoken, locale, base, ?_, hbase, fun hrepeated => ?_⟩
  · rw [Selector.outcome_face (Selector.sound_history _ others)]
    exact hnormal
  have hsettled := settledText_inject_iff hlocale hrepeated hfree htime hspoken
  refine ⟨?_, fun hv => ?_⟩
  · rw [hsmallText, hnormalText, Config.arrange_inj]
    exact hsettled
  · rw [hsmallText, Config.arrange_hidden hv]
    exact hsettled

/-- A single AM/PM letter: the date and the time stand as they do with a normal run. -/
theorem resolve_render_small_iff_wednesday :
    let skeletons : SkeletonSource :=
      .table [] (some ⟨"HH:mm:ss", "h:mm:ss a", "HH:mm", "h:mm a"⟩)
    let c : Config := { dateVisibility := .normal }
    (FormatSource.ofSkeletons skeletons).Free ∧
      c.layout.writeDate DateText.write .afternoon = .ok "Wed".toList ∧
      (Selector.face (.ofSkeletons skeletons) DateText.write { c with emphasis := .small }
          .afternoon).outcome (Selector.history (.ofSkeletons skeletons) []) =
        .ok ⟨"Wed 3:04 PM".toList,
          [⟨.amPmEmphasis, 8, 11, .resize SpanAction.smallFactor, by decide⟩],
          "3:04 PM".toList⟩ ∧
      ∃ normal locale base,
        (Selector.face (.ofSkeletons skeletons) DateText.write { c with emphasis := .normal }
          .afternoon).outcome (Selector.history (.ofSkeletons skeletons) [.invalidate]) =
            .ok normal ∧
        (FormatSource.ofSkeletons skeletons).base c.patternKey = .ok (locale, base) ∧
        ("Wed 3:04 PM".toList = normal.text ↔ Single base) ∧
        (c.dateVisibility = .none → ("Wed 3:04 PM".toList = "3:04 PM".toList ↔ Single base)) := by
  intro skeletons c
  have hskeletons : (FormatSource.ofSkeletons skeletons).Free :=
    FormatSource.free_table _ (List.forall_mem_nil _) (by decide)
  have hwritten : c.layout.writeDate DateText.write .afternoon = .ok "Wed".toList :=
    eq_ok_of_toOption (by decide +kernel)
  have hdate : c.dateVisibility ≠ .none →
      ∀ date, c.layout.writeDate DateText.write .afternoon = .ok date → Marker.Free date := by
    rintro - date hother
    obtain rfl := Except.ok.inj (hwritten.symm.trans hother)
    decide
  have hsmall : (Selector.face (.ofSkeletons skeletons) DateText.write
      { c with emphasis := .small } .afternoon).outcome
        (Selector.history (.ofSkeletons skeletons) []) =
      .ok ⟨"Wed 3:04 PM".toList,
        [⟨.amPmEmphasis, 8, 11, .resize SpanAction.smallFactor, by decide⟩],
        "3:04 PM".toList⟩ := eq_ok_of_toOption (by decide +kernel)
  obtain ⟨normal, locale, base, hnormal, hbase, htexts⟩ := resolve_render_small_iff hskeletons
    (fun _ => Locale.free_of_ofTag) hdate hsmall [.invalidate]
  have hrepeated : locale.data.TellsRepeated :=
    Locale.tellsRepeated_of_ofTag (FormatSource.locales_of_base hbase)
  exact ⟨hskeletons, hwritten, hsmall, normal, locale, base, hnormal, hbase,
    htexts fun _ => hrepeated⟩

/-- A field of four AM/PM letters: marking cuts it in two, and a small run shows its text
twice. -/
theorem resolve_render_small_twice :
    let skeletons : SkeletonSource :=
      .table [] (some ⟨"HH:mm:ss", "h:mm:ss aaaa", "HH:mm", "h:mm aaaa"⟩)
    let c : Config := {}
    (FormatSource.ofSkeletons skeletons).Free ∧
      (Selector.face (.ofSkeletons skeletons) DateText.write { c with emphasis := .small }
          .afternoon).outcome (Selector.history (.ofSkeletons skeletons) []) =
        .ok ⟨"3:04 PMPM".toList,
          [⟨.amPmEmphasis, 4, 7, .resize SpanAction.smallFactor, by decide⟩],
          "3:04 PM".toList⟩ ∧
      (Selector.face (.ofSkeletons skeletons) DateText.write { c with emphasis := .normal }
          .afternoon).outcome (Selector.history (.ofSkeletons skeletons) []) =
        .ok ⟨"3:04 PM".toList, [], "3:04 PM".toList⟩ ∧
      "3:04 PMPM".toList ≠ "3:04 PM".toList := by
  intro skeletons c
  exact ⟨FormatSource.free_table _ (List.forall_mem_nil _) (by decide),
    eq_ok_of_toOption (by decide +kernel), eq_ok_of_toOption (by decide +kernel), by decide⟩

end ClockFace
