import ClockFace.Proofs.TuningStrings

/-! # Rules of settings

Each of the eleven settings of a configuration has a rule for its value, which looks at nothing
else (`Shape.Accepts`). `settingRules` lists the settings in order. The settings whose values break
their rules are the problems of a reading, and all of them are reported. Without problems a
configuration holds what the values say, and the defaults of the settings without a value
(`Config.HoldsOf`).

`Config.Reads` ties the reader of a setting to its rule, so that the eleven settings take one
argument.

## Key results

- `Config.reads_truth`, `reads_choice`, `reads_text`, `reads_optionalText`: what the readers take
- `Config.ofFields_run`: the problems of a reading, or the configuration that it makes
- `Config.ofFields_toFields_append`: the values of a configuration make it again
- `Config.ofFields_of_rules`: which values make a configuration, and which problems the others have
-/

namespace ClockFace

/-! ## Values -/

/-- The texts that stand for a truth value. -/
def truthSpellings : Bool → List String
  | false => ["0", "off", "f", "false", "n", "no"]
  | true => ["1", "on", "t", "true", "y", "yes"]

/-- The number that stands for a truth value. -/
def truthNumber (b : Bool) : Int :=
  if b then 1 else 0

/-- The value stands for a truth value: it is that value, or its number, or one of the texts for it
in any case of the Latin letters. -/
def Value.StandsFor : Value → Bool → Prop
  | .bool a, b => a = b
  | .int n, b => n = truthNumber b
  | .real d, b => d.toDouble? = some (truthNumber b : Rat)
  | .text s, b => String.ofList (s.toList.map Char.toLower) ∈ truthSpellings b
  | _, _ => False

instance : (v : Value) → (b : Bool) → Decidable (v.StandsFor b)
  | .bool a, b => inferInstanceAs (Decidable (a = b))
  | .int n, b => inferInstanceAs (Decidable (n = truthNumber b))
  | .real d, b => inferInstanceAs (Decidable (d.toDouble? = some (truthNumber b : Rat)))
  | .text s, b =>
    inferInstanceAs (Decidable (String.ofList (s.toList.map Char.toLower) ∈ truthSpellings b))
  | .null, _ | .notNumber, _ | .list _, _ | .object _, _ => inferInstanceAs (Decidable False)

/-- The value is null. -/
def Value.isNull : Value → Bool
  | .null => true
  | _ => false

/-- The text that a value is. -/
def Value.text? : Value → Option String
  | .text s => some s
  | _ => none

/-- The value is a text, or a whole number of 64 bits. -/
def Value.isReadable : Value → Bool
  | .text _ => true
  | .int n => -Config.wordBound ≤ n && n < Config.wordBound
  | .real d => d.toDouble?.any fun x => decide (x.den = 1 ∧ x.abs < (Config.wordBound : Rat))
  | _ => false

/-! ## Rules -/

/-- What a setting asks of its value. -/
inductive Shape where
  | truth
  | oneOf (names : List String)
  | text
  | optionalText
  deriving DecidableEq, Repr

namespace Shape

/-- The value is one that the setting can have. -/
def Accepts : Shape → Value → Prop
  | .truth, v => ∃ b, v.StandsFor b
  | .oneOf names, v => ∃ name ∈ names, v.text? = some name
  | .text, v => v.text?.isSome
  | .optionalText, v => v.isNull ∨ v.text?.isSome

instance : (shape : Shape) → (v : Value) → Decidable (shape.Accepts v)
  | .truth, v => inferInstanceAs (Decidable (∃ b, v.StandsFor b))
  | .oneOf names, v => inferInstanceAs (Decidable (∃ name ∈ names, v.text? = some name))
  | .text, v => inferInstanceAs (Decidable v.text?.isSome)
  | .optionalText, v => inferInstanceAs (Decidable (v.isNull ∨ v.text?.isSome))

/-- What is wrong with a value that the setting cannot have. -/
def flaw : Shape → Value → Flaw
  | .truth, v => if v.isReadable then .unreadableTruth else .notTruth
  | .oneOf names, _ => .notAmong names
  | .text, _ | .optionalText, _ => .notText

end Shape

/-- A setting and what it asks of its value. -/
structure SettingRule where
  field : String
  shape : Shape
  deriving DecidableEq, Repr

/-- The settings of a configuration, in order. -/
def settingRules : List SettingRule :=
  [⟨"hour24", .truth⟩, ⟨"show_seconds", .truth⟩,
    ⟨"am_pm_emphasis", .oneOf ["none", "small", "normal"]⟩,
    ⟨"date_visibility", .oneOf ["none", "small", "normal"]⟩,
    ⟨"date_case", .oneOf ["as_is", "lower", "upper"]⟩,
    ⟨"date_position", .oneOf ["left", "right"]⟩, ⟨"date_format_pattern", .text⟩,
    ⟨"locale", .text⟩, ⟨"timezone", .optionalText⟩, ⟨"show_clock", .truth⟩,
    ⟨"placement", .oneOf ["right", "center", "left"]⟩]

namespace SettingRule

/-- The setting has a value, and not one that it can have. -/
def Offends (r : SettingRule) (fields : Config.Fields) : Prop :=
  ∃ v ∈ fields.value? r.field, ¬ r.shape.Accepts v

instance (r : SettingRule) (fields : Config.Fields) : Decidable (r.Offends fields) :=
  inferInstanceAs (Decidable (∃ v ∈ fields.value? r.field, ¬ r.shape.Accepts v))

/-- The problem with the value of the setting. -/
def problem (r : SettingRule) (fields : Config.Fields) : Problem :=
  ⟨r.field, r.shape.flaw ((fields.value? r.field).getD .null)⟩

end SettingRule

/-! ## What values tell -/

/-- The setting is what its value tells, or the default if it has none. -/
def Settles {α : Type} (tells : Value → α → Prop) (fields : Config.Fields) (field : String)
    (default a : α) : Prop :=
  match fields.value? field with
  | none => a = default
  | some v => tells v a

/-- The value is the name of a choice. -/
def Value.IsNameOf {α : Type} [Choice α] (v : Value) (a : α) : Prop :=
  v = .text (Choice.name a)

/-- The value is a text. -/
def Value.IsText (v : Value) (s : String) : Prop :=
  v = .text s

/-- The value is a text, or null for none. -/
def Value.IsOptionalText (v : Value) (s : Option String) : Prop :=
  v = (s.map Value.text).getD .null

namespace Config

/-- The configuration holds what the named values say, setting by setting. -/
structure HoldsOf (fields : Fields) (c : Config) : Prop where
  hour24 : Settles Value.StandsFor fields "hour24" false c.hour24
  showSeconds : Settles Value.StandsFor fields "show_seconds" false c.showSeconds
  emphasis : Settles Value.IsNameOf fields "am_pm_emphasis" .none c.emphasis
  dateVisibility : Settles Value.IsNameOf fields "date_visibility" .none c.dateVisibility
  dateCase : Settles Value.IsNameOf fields "date_case" .asIs c.dateCase
  datePosition : Settles Value.IsNameOf fields "date_position" .left c.datePosition
  dateFormat : Settles Value.IsText fields "date_format_pattern" "EEE" c.dateFormat
  locale : Settles Value.IsText fields "locale" "en_US" c.locale
  timezone : Settles Value.IsOptionalText fields "timezone" none c.timezone
  showClock : Settles Value.StandsFor fields "show_clock" true c.showClock
  placement : Settles Value.IsNameOf fields "placement" .right c.placement

/-- Zero and one are the numbers that have a truth value. -/
theorem readTruthNumber_truthNumber (b : Bool) : readTruthNumber (truthNumber b) = .ok b := by
  cases b <;> rfl

theorem readTruthNumber_of_ne {x : Rat} (h : ∀ b, x ≠ truthNumber b) :
    readTruthNumber x = .error .unreadableTruth := by
  have hzero : x ≠ 0 := h false
  have hone : x ≠ 1 := h true
  rw [readTruthNumber, if_neg hzero, if_neg hone]

theorem readTruth_of_standsFor {v : Value} {b : Bool} (h : v.StandsFor b) : readTruth v = .ok b := by
  cases v with
  | bool a => exact congrArg Except.ok h
  | int n =>
    obtain rfl : n = truthNumber b := h
    have hbound : -wordBound ≤ truthNumber b && truthNumber b < wordBound := by cases b <;> decide
    rw [readTruth, if_pos hbound, readTruthNumber_truthNumber]
  | real d =>
    have hdouble : d.toDouble? = some (truthNumber b : Rat) := h
    have hbound : ((truthNumber b : Rat).den = 1 && (truthNumber b : Rat).abs < wordBound) = true := by
      cases b <;> decide +kernel
    simp only [readTruth, hdouble, if_pos hbound, readTruthNumber_truthNumber]
  | text s =>
    have hdisjoint : ∀ w ∈ trueSpellings, ¬ falseSpellings.contains w = true := by decide
    cases b with
    | false =>
      have hmem : falseSpellings.contains (String.ofList (s.toList.map Char.toLower)) = true :=
        List.contains_iff_mem.2 h
      simp only [readTruth, if_pos hmem]
    | true =>
      have hmem : trueSpellings.contains (String.ofList (s.toList.map Char.toLower)) = true :=
        List.contains_iff_mem.2 h
      simp only [readTruth, if_neg (hdisjoint _ h), if_pos hmem]
  | null => cases h
  | notNumber => cases h
  | list items => cases h
  | object fields => cases h

theorem readTruth_of_not_standsFor {v : Value} (h : ¬∃ b, v.StandsFor b) :
    readTruth v = .error (Shape.flaw .truth v) := by
  have hne (b : Bool) : ¬ v.StandsFor b := fun hb => h ⟨b, hb⟩
  cases v with
  | bool a => exact absurd rfl (hne a)
  | int n =>
    have hnumber : ∀ b, (n : Rat) ≠ truthNumber b := fun b hb => hne b (by exact_mod_cast hb)
    rw [readTruth, readTruthNumber_of_ne hnumber, Shape.flaw, Value.isReadable]
    split <;> rfl
  | real d =>
    rw [readTruth, Shape.flaw, Value.isReadable]
    cases hd : d.toDouble? with
    | none => rfl
    | some x =>
      have hnumber : ∀ b, x ≠ truthNumber b := by
        rintro b rfl
        exact hne b hd
      simp only [readTruthNumber_of_ne hnumber, Option.any_some, Bool.decide_and]
      split <;> rfl
  | text s =>
    have hfalse : ¬ falseSpellings.contains (String.ofList (s.toList.map Char.toLower)) = true :=
      fun hb => hne false (List.contains_iff_mem.1 hb)
    have htrue : ¬ trueSpellings.contains (String.ofList (s.toList.map Char.toLower)) = true :=
      fun hb => hne true (List.contains_iff_mem.1 hb)
    simp only [readTruth, if_neg hfalse, if_neg htrue]
    rfl
  | null => rfl
  | notNumber => rfl
  | list items => rfl
  | object fields => rfl

/-- A reader takes every value that tells something, for what it tells, and finds the flaw of the
shape in all others. -/
structure Reads {α : Type} (read : Value → Except Flaw α) (tells : Value → α → Prop)
    (shape : Shape) : Prop where
  ok : ∀ {v a}, tells v a → read v = .ok a
  error : ∀ {v}, ¬ shape.Accepts v → read v = .error (shape.flaw v)
  accepts_iff : ∀ {v}, shape.Accepts v ↔ ∃ a, tells v a

theorem reads_truth : Reads readTruth Value.StandsFor .truth where
  ok := readTruth_of_standsFor
  error := readTruth_of_not_standsFor
  accepts_iff := Iff.rfl

/-- The choices of a setting are read by their names. -/
theorem reads_choice {α : Type} [Choice α]
    (h : ∀ p ∈ (Choice.options : List (String × α)), p.1 = Choice.name p.2) :
    Reads (readChoice (α := α)) Value.IsNameOf (.oneOf (Choice.names α)) where
  ok := by
    rintro v a rfl
    simp only [readChoice, Choice.ofName?_name]
  error {v} hv := by
    cases v with
    | text s =>
      have hs : (Choice.ofName? s : Option α) = none := by
        refine List.lookup_eq_none_iff.2 fun p hp => bne_iff_ne.2 ?_
        rintro rfl
        exact hv ⟨p.1, List.mem_map_of_mem hp, rfl⟩
      simp only [readChoice, hs]
      rfl
    | _ => rfl
  accepts_iff {v} := by
    constructor
    · rintro ⟨name, hname, hv⟩
      obtain ⟨p, hp, rfl⟩ := List.mem_map.1 hname
      cases v with
      | text s =>
        obtain rfl := Option.some.inj hv
        exact ⟨p.2, congrArg Value.text (h p hp)⟩
      | _ => cases hv
    · rintro ⟨a, rfl⟩
      obtain ⟨before, behind, hsplit, -⟩ := List.lookup_eq_some_iff.1 (Choice.lookup_name a)
      have hmem : (Choice.name a, a) ∈ (Choice.options : List (String × α)) := by
        rw [hsplit]
        exact List.mem_append_right _ List.mem_cons_self
      exact ⟨Choice.name a, List.mem_map_of_mem hmem, rfl⟩

theorem reads_text : Reads readText Value.IsText .text where
  ok := by
    rintro v s rfl
    rfl
  error {v} hv := by
    cases v with
    | text s => exact absurd rfl hv
    | _ => rfl
  accepts_iff {v} := by
    cases v <;> simp [Shape.Accepts, Value.text?, Value.IsText]

theorem reads_optionalText : Reads readOptionalText Value.IsOptionalText .optionalText where
  ok {v o} h := by
    obtain rfl : v = (o.map Value.text).getD .null := h
    cases o <;> rfl
  error {v} hv := by
    cases v with
    | null => exact absurd (.inl rfl) hv
    | text s => exact absurd (.inr rfl) hv
    | _ => rfl
  accepts_iff {v} := by
    constructor
    · intro hv
      cases v with
      | null => exact ⟨none, rfl⟩
      | text s => exact ⟨some s, rfl⟩
      | _ => rcases hv with hv | hv <;> cases hv
    · rintro ⟨o, rfl⟩
      cases o with
      | none => exact .inl rfl
      | some s => exact .inr rfl

section Setting

variable {α : Type} {read : Value → Except Flaw α} {tells : Value → α → Prop} {shape : Shape}
  (h : Reads read tells shape) (fields : Fields) (field : String) (default : α)
include h

/-- A setting without an acceptable value is reported, and no other one. -/
theorem Reads.problem?_setting : problem? field (setting fields field read default) =
    if SettingRule.Offends ⟨field, shape⟩ fields then some (SettingRule.problem ⟨field, shape⟩ fields)
    else none := by
  rw [setting, SettingRule.problem]
  cases hv : fields.value? field with
  | none => simp [problem?, SettingRule.Offends, hv]
  | some v =>
    by_cases haccepts : shape.Accepts v
    · obtain ⟨a, ha⟩ := h.accepts_iff.1 haccepts
      simp [problem?, SettingRule.Offends, hv, haccepts, h.ok ha]
    · simp [problem?, SettingRule.Offends, hv, haccepts, h.error haccepts]

/-- A setting with an acceptable value, or without one, is what that tells. -/
theorem Reads.settles_setting (hkept : ¬ SettingRule.Offends ⟨field, shape⟩ fields) :
    Settles tells fields field default (valueOr default (setting fields field read default)) := by
  rw [setting, Settles]
  cases hv : fields.value? field with
  | none => rfl
  | some v =>
    have haccepts : shape.Accepts v :=
      Decidable.not_not.1 fun hnot => hkept ⟨v, hv, hnot⟩
    obtain ⟨a, ha⟩ := h.accepts_iff.1 haccepts
    simp only [h.ok ha, valueOr]
    exact ha

end Setting

/-! ## Configurations -/

theorem filterMap_ite_map {α β : Type} (p : α → Prop) [DecidablePred p] (f : α → β) (l : List α) :
    l.filterMap (fun a => if p a then some (f a) else none) = (l.filter (p ·)).map f := by
  induction l with
  | nil => rfl
  | cons a rest ih => by_cases h : p a <;> simp [h, ih]

/-- The problems of a reading: the settings whose values break their rules. -/
def problems (fields : Fields) : List Problem :=
  (settingRules.filter (·.Offends fields)).map (·.problem fields)

theorem problems_eq_nil_iff {fields : Fields} :
    problems fields = [] ↔ ∀ r ∈ settingRules, ¬ r.Offends fields := by
  simp [problems, List.filter_eq_nil_iff]

theorem reads_emphasis :
    Reads (readChoice (α := Emphasis)) Value.IsNameOf (.oneOf ["none", "small", "normal"]) :=
  reads_choice (by decide)

theorem reads_dateVisibility :
    Reads (readChoice (α := DateVisibility)) Value.IsNameOf (.oneOf ["none", "small", "normal"]) :=
  reads_choice (by decide)

theorem reads_dateCase :
    Reads (readChoice (α := DateCase)) Value.IsNameOf (.oneOf ["as_is", "lower", "upper"]) :=
  reads_choice (by decide)

theorem reads_datePosition :
    Reads (readChoice (α := DatePosition)) Value.IsNameOf (.oneOf ["left", "right"]) :=
  reads_choice (by decide)

theorem reads_placement :
    Reads (readChoice (α := Placement)) Value.IsNameOf (.oneOf ["right", "center", "left"]) :=
  reads_choice (by decide)

/-- All problems are reported, and a reading without problems holds what the values say. -/
theorem ofFields_run (fields : Fields) :
    (problems fields ≠ [] → ofFields fields = .error (.settings (problems fields))) ∧
      (problems fields = [] → ∃ c, ofFields fields = .ok c ∧ HoldsOf fields c) := by
  have hlist : (settingRules.map fun r =>
      if r.Offends fields then some (r.problem fields) else none).filterMap id = problems fields := by
    rw [List.filterMap_map]
    exact filterMap_ite_map (SettingRule.Offends · fields) (·.problem fields) settingRules
  simp only [settingRules, List.map_cons, List.map_nil] at hlist
  simp only [ofFields, reads_truth.problem?_setting, reads_emphasis.problem?_setting,
    reads_dateVisibility.problem?_setting, reads_dateCase.problem?_setting,
    reads_datePosition.problem?_setting, reads_text.problem?_setting,
    reads_optionalText.problem?_setting, reads_placement.problem?_setting, hlist]
  refine ⟨fun hne => if_neg (by simpa using hne), fun hnil => ⟨_, if_pos (by simpa using hnil), ?_⟩⟩
  have hkept := problems_eq_nil_iff.1 hnil
  exact {
    hour24 := reads_truth.settles_setting _ _ _ (hkept _ (by decide))
    showSeconds := reads_truth.settles_setting _ _ _ (hkept _ (by decide))
    emphasis := reads_emphasis.settles_setting _ _ _ (hkept _ (by decide))
    dateVisibility := reads_dateVisibility.settles_setting _ _ _ (hkept _ (by decide))
    dateCase := reads_dateCase.settles_setting _ _ _ (hkept _ (by decide))
    datePosition := reads_datePosition.settles_setting _ _ _ (hkept _ (by decide))
    dateFormat := reads_text.settles_setting _ _ _ (hkept _ (by decide))
    locale := reads_text.settles_setting _ _ _ (hkept _ (by decide))
    timezone := reads_optionalText.settles_setting _ _ _ (hkept _ (by decide))
    showClock := reads_truth.settles_setting _ _ _ (hkept _ (by decide))
    placement := reads_placement.settles_setting _ _ _ (hkept _ (by decide)) }

/-- Values under other names do not count. -/
theorem ofFields_congr {fields other : Fields}
    (h : ∀ r ∈ settingRules, other.value? r.field = fields.value? r.field) :
    ofFields other = ofFields fields := by
  simp only [settingRules, List.forall_mem_cons] at h
  simp only [ofFields, setting, h]
  rfl

/-- The named values of a configuration make it again, whatever else comes with them. -/
theorem ofFields_toFields_append (c : Config) {extra : Fields}
    (h : ∀ r ∈ settingRules, extra.value? r.field = none) :
    ofFields (c.toFields ++ extra) = .ok c := by
  rw [← ofFields_toFields c]
  refine ofFields_congr fun r hr => ?_
  have hnone : extra.reverse.lookup r.field = none := h r hr
  rw [Fields.value?, Fields.value?, List.reverse_append, List.lookup_append, hnone, Option.none_or]

/-- Named values make a configuration exactly if each of the eleven settings has no value or one
that its rule accepts. Else the failure lists the settings whose values break their rules, each
once and in order, with what is wrong. A configuration holds what the values say, and the defaults
of the settings without one. Values under other names do not count. The named values of a
configuration, whatever else comes with them, make that configuration again, and with it the same
date pattern in effect, the same visibility and the same pattern key. -/
theorem ofFields_of_rules (fields : Fields) :
    ((∃ c, ofFields fields = .ok c) ↔
        ∀ r ∈ settingRules, ∀ v, fields.value? r.field = some v → r.shape.Accepts v) ∧
      (∀ e, ofFields fields = .error e →
        e = .settings ((settingRules.filter (·.Offends fields)).map (·.problem fields))) ∧
      (∀ other : Fields, (∀ r ∈ settingRules, other.value? r.field = fields.value? r.field) →
        ofFields other = ofFields fields) ∧
      ∀ c, ofFields fields = .ok c → HoldsOf fields c ∧
        ∀ extra : Fields, (∀ r ∈ settingRules, extra.value? r.field = none) →
          ofFields (c.toFields ++ extra) = .ok c := by
  obtain ⟨hrefused, hmade⟩ := ofFields_run fields
  have hkept : problems fields = [] ↔
      ∀ r ∈ settingRules, ∀ v, fields.value? r.field = some v → r.shape.Accepts v := by
    simp [problems_eq_nil_iff, SettingRule.Offends]
  refine ⟨⟨?_, ?_⟩, ?_, fun other hother => ofFields_congr hother, ?_⟩
  · rintro ⟨c, hc⟩
    rw [← hkept]
    refine Decidable.not_not.1 fun hne => ?_
    rw [hrefused hne] at hc
    cases hc
  · intro haccepts
    obtain ⟨c, hc, -⟩ := hmade (hkept.2 haccepts)
    exact ⟨c, hc⟩
  · intro e he
    by_cases hnil : problems fields = []
    · obtain ⟨c, hc, -⟩ := hmade hnil
      rw [hc] at he
      cases he
    · rw [hrefused hnil] at he
      exact (Except.error.inj he).symm
  · intro c hc
    refine ⟨?_, fun extra hextra => ofFields_toFields_append c hextra⟩
    by_cases hnil : problems fields = []
    · obtain ⟨made, hmade, hholds⟩ := hmade hnil
      rw [hmade] at hc
      obtain rfl := Except.ok.inj hc
      exact hholds
    · rw [hrefused hnil] at hc
      cases hc

/-- Two of five values break their rules; a name without a meaning does not count, and of two values
with one name the later does. -/
example : ofFields [("placement", .text "Left"), ("hour24", .text "YES"), ("locale", .null),
      ("seconds", .null), ("locale", .int 1)] =
    .error (.settings [⟨"locale", .notText⟩,
      ⟨"placement", .notAmong ["right", "center", "left"]⟩]) := by
  rfl

end Config

end ClockFace
