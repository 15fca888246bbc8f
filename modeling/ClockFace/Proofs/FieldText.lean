import ClockFace.Pattern.Basic
import ClockFace.Proofs.MarkedRun

/-! # What fields write

A field writes digits, the signs of an offset and characters of the locale's own texts,
and nothing else (`Field.write_subset`). In a locale without markers in its texts
(`Locale.Free`), the markers that a pattern writes are therefore those of its literal text,
in their order (`Pattern.among_writeTokens`). The locales with data are all free of markers.

## Key results

- `Locale.free_of_ofTag`: the table of locales holds no marker
- `Field.write_subset`: a field writes characters of the locale's alphabet
- `Pattern.among_writeTokens`: the markers that tokens write
-/

namespace ClockFace

open Marker

namespace Marker

theorem Free.of_subset {a b : List Char} (h : Free b) (hab : a ⊆ b) : Free a :=
  ⟨fun ho => h.1 (hab ho), fun hc => h.2 (hab hc)⟩

/-- The byte that both markers begin with. -/
def leadByte : UInt8 := 0xEE

/-- A text without the first byte of the markers holds no marker. The bytes of a text are
quicker to find than its characters. -/
theorem free_of_leadByte {s : String} (h : leadByte ∉ s.toByteArray.data.toList) :
    Free s.toList := by
  rw [← String.utf8Encode_toList, List.utf8Encode, List.data_toByteArray] at h
  exact ⟨fun hopen => h (List.mem_flatMap.2 ⟨opening, hopen, by decide⟩),
    fun hclose => h (List.mem_flatMap.2 ⟨closing, hclose, by decide⟩)⟩

end Marker

/-- The names in all widths. -/
def Widths.all {α : Type} (w : Widths α) : List α :=
  [w.wide, w.abbreviated, w.narrow]

/-- The names in both contexts. -/
def Contexts.all {α : Type} (c : Contexts α) : List α :=
  [c.format, c.standAlone]

theorem Contexts.format_mem_all {α : Type} (c : Contexts α) : c.format ∈ c.all :=
  List.mem_cons_self

theorem Contexts.standAlone_mem_all {α : Type} (c : Contexts α) : c.standAlone ∈ c.all :=
  List.mem_cons_of_mem _ List.mem_cons_self

/-- The names of the weekdays in all widths. -/
def DayNames.names (n : DayNames) : List String :=
  n.short ++ n.toWidths.all.flatten

namespace LocaleData

/-- The texts of a locale that fields write. -/
def texts (d : LocaleData) : List String :=
  [d.gmtBefore, d.gmtAfter] ++ d.era.all ++ d.months.all.flatMap (·.all.flatten) ++
    d.quarters.all.flatMap (·.all.flatten) ++ d.days.all.flatMap DayNames.names ++
    d.periods.all.flatMap fun names => names.all.flatten.map Prod.snd

section Texts

variable {d : LocaleData} {text : String}

theorem mem_texts_of_era (h : text ∈ d.era.all) : text ∈ d.texts := by
  simp only [texts, List.mem_append]
  exact .inl (.inl (.inl (.inl (.inr h))))

theorem months_subset_texts {names : Widths (List String)} (h : names ∈ d.months.all) :
    names.all.flatten ⊆ d.texts := by
  intro name hname
  simp only [texts, List.mem_append, List.mem_flatMap]
  exact .inl (.inl (.inl (.inr ⟨names, h, hname⟩)))

theorem quarters_subset_texts {names : Widths (List String)} (h : names ∈ d.quarters.all) :
    names.all.flatten ⊆ d.texts := by
  intro name hname
  simp only [texts, List.mem_append, List.mem_flatMap]
  exact .inl (.inl (.inr ⟨names, h, hname⟩))

theorem days_subset_texts {names : DayNames} (h : names ∈ d.days.all) :
    names.names ⊆ d.texts := by
  intro name hname
  simp only [texts, List.mem_append, List.mem_flatMap]
  exact .inl (.inr ⟨names, h, hname⟩)

theorem mem_texts_of_period {names : Widths (List (String × String))} (h : names ∈ d.periods.all)
    {column : List (String × String)} (hcolumn : column ∈ names.all) {id : String}
    (hname : column.lookup id = some text) : text ∈ d.texts := by
  obtain ⟨first, rest, hsplit, -⟩ := List.lookup_eq_some_iff.1 hname
  have hpair : (id, text) ∈ column := by
    rw [hsplit]
    exact List.mem_append_right _ List.mem_cons_self
  simp only [texts, List.mem_append, List.mem_flatMap]
  have hnames := List.mem_flatten.2 ⟨column, hcolumn, hpair⟩
  exact .inr ⟨names, h, List.mem_map.2 ⟨(id, text), hnames, rfl⟩⟩

end Texts

/-- The characters of numbers and offsets. -/
def symbols : List Char :=
  "0123456789+-:ZNone".toList

/-- The characters that fields can write in a locale. -/
def alphabet (d : LocaleData) : List Char :=
  symbols ++ d.texts.flatMap String.toList

theorem toList_subset_alphabet {d : LocaleData} {text : String} (h : text ∈ d.texts) :
    text.toList ⊆ d.alphabet :=
  fun _ hc => List.mem_append_right _ (List.mem_flatMap.2 ⟨text, h, hc⟩)

theorem symbols_subset_alphabet (d : LocaleData) : symbols ⊆ d.alphabet :=
  List.subset_append_left _ _

/-- Checked over the whole table, once. -/
theorem leadByte_not_mem_texts :
    ∀ d ∈ all, ∀ text ∈ d.texts, leadByte ∉ text.toByteArray.data.toList := by
  decide +kernel

theorem alphabet_free {d : LocaleData} (h : d ∈ all) : Free d.alphabet := by
  have hsymbols : Free symbols := by decide
  have htexts : Free (d.texts.flatMap String.toList) := by
    constructor <;> intro hmem <;> obtain ⟨text, htext, hc⟩ := List.mem_flatMap.1 hmem
    · exact (free_of_leadByte (leadByte_not_mem_texts d h text htext)).1 hc
    · exact (free_of_leadByte (leadByte_not_mem_texts d h text htext)).2 hc
  exact free_append.2 ⟨hsymbols, htexts⟩

end LocaleData

namespace Locale

theorem data_mem_all_of_load? {t : LocaleTag} {l : Locale} (h : load? t = some l) :
    l.data ∈ LocaleData.all := by
  obtain ⟨data, hdata, rfl⟩ := Option.map_eq_some_iff.1 h
  exact List.mem_of_find?_eq_some hdata

theorem data_mem_all_of_loadReducing? {t : LocaleTag} {l : Locale}
    (h : loadReducing? t = some l) : l.data ∈ LocaleData.all := by
  simp only [loadReducing?, Option.orElse_eq_orElse, Option.orElse_eq_or,
    Option.or_eq_some_iff] at h
  obtain h | ⟨-, h⟩ := h
  · exact data_mem_all_of_load? h
  · exact data_mem_all_of_load? h

/-- A tag leads to data of the table. -/
theorem data_mem_all {tag : String} {l : Locale} (h : ofTag tag = .ok l) :
    l.data ∈ LocaleData.all := by
  simp only [ofTag, bind, Except.bind] at h
  split at h
  · cases h
  · next t ht =>
    split at h
    · next found hfound =>
      obtain rfl := Except.ok.inj h
      simp only [resolve?, Option.orElse_eq_orElse, Option.orElse_eq_or,
        Option.or_eq_some_iff] at hfound
      -- The tag itself, its likely full form, or the likely form of its language
      obtain hload | ⟨-, hload | ⟨-, hload⟩⟩ := hfound
      · exact data_mem_all_of_load? hload
      · obtain ⟨full, -, hfull⟩ := Option.bind_eq_some_iff.1 hload
        exact data_mem_all_of_loadReducing? hfull
      · obtain ⟨full, -, hfull⟩ := Option.bind_eq_some_iff.1 hload
        exact data_mem_all_of_loadReducing? hfull
    · cases h

/-- Nothing that fields write in the locale is a marker. -/
def Free (l : Locale) : Prop :=
  Marker.Free l.data.alphabet

/-- The locales with data are free of markers. -/
theorem free_of_ofTag {tag : String} {l : Locale} (h : ofTag tag = .ok l) : l.Free :=
  LocaleData.alphabet_free (data_mem_all h)

end Locale

namespace Field

theorem ite_subset {p : Prop} [Decidable p] {a b s : List Char} (ha : a ⊆ s) (hb : b ⊆ s) :
    (if p then a else b) ⊆ s := by
  split
  · exact ha
  · exact hb

/-! ## Numbers -/

theorem ofNat_subset (n : Nat) : Text.ofNat n ⊆ LocaleData.symbols := by
  intro c hc
  have hdigit := Nat.isDigit_of_mem_toDigits (by decide) (by decide) hc
  have hcode : ∀ n < 58, 48 ≤ n → Char.ofNat n ∈ LocaleData.symbols := by decide
  simp only [Char.isDigit, Bool.and_eq_true, decide_eq_true_eq] at hdigit
  rw [← Char.ofNat_toNat c]
  exact hcode c.toNat (Nat.lt_succ_of_le hdigit.2) hdigit.1

theorem padded_subset (width n : Nat) : Text.padded width n ⊆ LocaleData.symbols := by
  rw [Text.padded, List.leftpad]
  refine List.append_subset.2 ⟨?_, ofNat_subset n⟩
  intro c hc
  rw [List.eq_of_mem_replicate hc]
  decide

theorem number_subset (d : LocaleData) (length : Nat) (n : Int) : number length n ⊆ d.alphabet :=
  List.Subset.trans (padded_subset length n.toNat) d.symbols_subset_alphabet

theorem year_subset (d : LocaleData) (length : Nat) (n : Int) : year length n ⊆ d.alphabet := by
  rw [year]
  split
  · exact List.Subset.trans (List.drop_subset _ _) (number_subset d length n)
  · exact number_subset d length n

/-! ## Names -/

variable {d : LocaleData}

theorem ofWidth_mem_all {α : Type} (length : Nat) (w : Widths α) : ofWidth length w ∈ w.all := by
  rw [ofWidth, Widths.all]
  split
  · exact List.mem_cons_self
  · split <;> simp

/-- A place behind the end of a list has no name. -/
theorem nameAt_subset {names : List String} (h : names ⊆ d.texts) (place : Int) :
    nameAt names place ⊆ d.alphabet := by
  rw [nameAt, List.getD_eq_getElem?_getD]
  cases hname : names[place.toNat]? with
  | none => exact List.nil_subset _
  | some name => exact LocaleData.toList_subset_alphabet (h (List.mem_of_getElem? hname))

theorem ofWidth_subset_texts {names : Widths (List String)} (length : Nat)
    (h : names.all.flatten ⊆ d.texts) : ofWidth length names ⊆ d.texts :=
  fun _ hname => h (List.mem_flatten.2 ⟨_, ofWidth_mem_all length names, hname⟩)

theorem weekdayName_subset {names : DayNames} (h : names.names ⊆ d.texts) (length : Nat)
    (weekday : Int) : weekdayName length names weekday ⊆ d.alphabet := by
  obtain ⟨hshort, hwidths⟩ := List.append_subset.1 h
  refine nameAt_subset ?_ weekday
  split
  · exact hshort
  · exact ofWidth_subset_texts length hwidths

/-- A day period is named in one of the widths. -/
theorem period_subset {locale : Locale} {length : Nat} {names : Widths (List (String × String))}
    {id : String} {text : List Char} (h : names ∈ locale.data.periods.all)
    (htext : period locale length names id = .ok text) : text ⊆ locale.data.alphabet := by
  rw [period] at htext
  split at htext
  · next name hname =>
    obtain rfl := Except.ok.inj htext
    obtain ⟨column, hcolumn, hlookup⟩ := List.exists_of_findSome?_eq_some hname
    refine LocaleData.toList_subset_alphabet (LocaleData.mem_texts_of_period h ?_ hlookup)
    simp only [List.mem_cons, List.not_mem_nil, or_false] at hcolumn
    obtain rfl | rfl | rfl | rfl := hcolumn
    · exact ofWidth_mem_all length names
    all_goals simp [Widths.all]
  · cases htext

/-! ## Offsets -/

theorem hoursText_subset (hours : Int) : OffsetForm.hoursText hours ⊆ LocaleData.symbols := by
  rw [OffsetForm.hoursText]
  refine List.cons_subset.2 ⟨?_, padded_subset 2 _⟩
  split <;> decide

/-- An offset is written in numbers, inside the locale's text in the long form. -/
theorem offsetForm_subset (form : OffsetForm) (zulu : Bool) (d : LocaleData) (seconds : Int) :
    form.write zulu d seconds ⊆ d.alphabet := by
  have hsymbols := d.symbols_subset_alphabet
  have hours := List.Subset.trans (hoursText_subset (seconds / 3600)) hsymbols
  have minutes := List.Subset.trans (padded_subset 2 (seconds % 3600 / 60).toNat) hsymbols
  have colon : ':' ∈ d.alphabet := hsymbols (by decide)
  have before : d.gmtBefore.toList ⊆ d.alphabet :=
    LocaleData.toList_subset_alphabet (by simp [LocaleData.texts])
  have after : d.gmtAfter.toList ⊆ d.alphabet :=
    LocaleData.toList_subset_alphabet (by simp [LocaleData.texts])
  simp only [OffsetForm.write]
  split
  · have hzulu : ['Z'] ⊆ LocaleData.symbols := by decide
    exact List.Subset.trans hzulu hsymbols
  · cases form with
    | short =>
      simp only
      split
      · exact hours
      · exact List.append_subset.2 ⟨hours, minutes⟩
    | basic => exact List.append_subset.2 ⟨hours, minutes⟩
    | extended => exact List.append_subset.2 ⟨hours, List.cons_subset.2 ⟨colon, minutes⟩⟩
    | long =>
      exact List.append_subset.2 ⟨List.append_subset.2 ⟨List.append_subset.2 ⟨before, hours⟩,
        List.cons_subset.2 ⟨colon, minutes⟩⟩, after⟩

theorem offset_subset (letter : Char) (length : Nat) (d : LocaleData) (seconds : Int) :
    offset letter length d seconds ⊆ d.alphabet := by
  have hsymbols : "None".toList ⊆ LocaleData.symbols := by decide
  have hnone := List.Subset.trans hsymbols d.symbols_subset_alphabet
  unfold offset
  split
  · exact ite_subset (offsetForm_subset ..) hnone
  · refine ite_subset (offsetForm_subset ..) ?_
    exact ite_subset (offsetForm_subset ..) (offsetForm_subset ..)
  all_goals exact offsetForm_subset ..

/-! ## All fields -/

/-- What a field writes once the week that it needs is known. -/
theorem subset_of_bind {x : Except Failure Int} {f : Int → List Char} {text s : List Char}
    (h : (x >>= fun n => pure (f n)) = Except.ok text) (hf : ∀ n, f n ⊆ s) : text ⊆ s := by
  cases x with
  | error e => cases h
  | ok n =>
    obtain rfl := Except.ok.inj h
    exact hf n

theorem ofDate_subset {letter : Char} {length : Nat} {locale : Locale} {date : Date}
    {text : List Char} (h : ofDate letter length locale date = .ok text) :
    text ⊆ locale.data.alphabet := by
  have hquarter {names : Widths (List String)} (hnames : names ∈ locale.data.quarters.all) :=
    ofWidth_subset_texts length (LocaleData.quarters_subset_texts hnames)
  have hmonth {names : Widths (List String)} (hnames : names ∈ locale.data.months.all) :=
    ofWidth_subset_texts length (LocaleData.months_subset_texts hnames)
  have hday {names : DayNames} (hnames : names ∈ locale.data.days.all) :=
    weekdayName_subset (LocaleData.days_subset_texts hnames) length date.weekday
  have hnumber := number_subset locale.data length
  simp only [ofDate] at h
  -- The fields of weeks may fail, and the last case is a letter that is no date field
  split at h
  case h_4 => exact subset_of_bind h (year_subset _ length)
  case h_9 => exact subset_of_bind h hnumber
  case h_17 => cases h
  all_goals obtain rfl := Except.ok.inj h
  · exact LocaleData.toList_subset_alphabet (LocaleData.mem_texts_of_era (ofWidth_mem_all ..))
  · exact year_subset ..
  · exact year_subset ..
  · exact ite_subset (hnumber _) (nameAt_subset (hquarter (Contexts.format_mem_all _)) _)
  · exact ite_subset (hnumber _) (nameAt_subset (hquarter (Contexts.standAlone_mem_all _)) _)
  · exact ite_subset (hnumber _) (nameAt_subset (hmonth (Contexts.format_mem_all _)) _)
  · exact ite_subset (hnumber _) (nameAt_subset (hmonth (Contexts.standAlone_mem_all _)) _)
  · exact number_subset ..
  · exact hnumber _
  · exact hnumber _
  · exact number_subset ..
  · exact hday (Contexts.format_mem_all _)
  · exact ite_subset (hnumber _) (hday (Contexts.format_mem_all _))
  · exact ite_subset (hnumber _) (hday (Contexts.standAlone_mem_all _))

theorem ofTime_subset {letter : Char} {length : Nat} {locale : Locale} {instant : Instant}
    {text : List Char} (h : ofTime letter length locale instant = .ok text) :
    text ⊆ locale.data.alphabet := by
  simp only [ofTime] at h
  -- Three day periods, the fraction of a second, and numbers
  split at h
  case h_1 => exact period_subset (Contexts.format_mem_all _) h
  case h_2 => exact period_subset (Contexts.standAlone_mem_all _) h
  case h_3 => exact period_subset (Contexts.format_mem_all _) h
  case h_10 =>
    simp only [fraction] at h
    split at h
    · cases h
    · obtain rfl := Except.ok.inj h
      exact number_subset ..
  case h_12 => cases h
  all_goals
    obtain rfl := Except.ok.inj h
    exact number_subset ..

/-- A field writes nothing but the characters of the locale's alphabet. -/
theorem write_subset {letter : Char} {length : Nat} {locale : Locale} {instant : Instant}
    {text : List Char} (h : write letter length locale instant = .ok text) :
    text ⊆ locale.data.alphabet := by
  rw [write] at h
  split at h
  · exact ofDate_subset h
  · split at h
    · obtain rfl := Except.ok.inj h
      exact offset_subset ..
    · exact ofTime_subset h

end Field

/-! ## Patterns -/

/-- What a token says itself, whatever the instant. -/
def Token.literal : Token → List Char
  | .text c => [c]
  | .field _ _ => []

namespace Pattern

/-- The literal text of tokens. -/
def literals (tokens : List Token) : List Char :=
  tokens.flatMap Token.literal

@[simp] theorem literals_append (a b : List Token) :
    literals (a ++ b) = literals a ++ literals b :=
  List.flatMap_append

/-- The markers that tokens write are those of their literal text. -/
theorem among_writeTokens {locale : Locale} (hlocale : locale.Free) {instant : Instant}
    {tokens : List Token} {text : List Char} (h : writeTokens locale instant tokens = .ok text) :
    among text = among (literals tokens) := by
  induction tokens generalizing text with
  | nil =>
    obtain rfl := Except.ok.inj h
    rfl
  | cons t rest ih =>
    rw [writeTokens] at h
    split at h
    · cases h
    · next first hfirst =>
      split at h
      · cases h
      · next more hmore =>
        obtain rfl := Except.ok.inj h
        have hliteral : among first = among t.literal := by
          cases t with
          | text c =>
            obtain rfl := Except.ok.inj hfirst
            rfl
          | field letter length =>
            -- A field writes no marker, and says nothing itself
            exact among_eq_nil_iff.2 (Marker.Free.of_subset hlocale (Field.write_subset hfirst))
        rw [among_append, hliteral, ih hmore, ← among_append]
        rfl

end Pattern

end ClockFace
