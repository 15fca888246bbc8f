import ClockFace.Setting.Tuning

/-! # Tuning values that are texts

A host keeps the tuning values as texts, and null stands for a value that is not set. Seven keys
govern a setting by their number. Five of the numbers select an option, the other two are only
asked whether they pass a test, and so any number will do for them. `Tuning.rules` lists the seven
keys in the order in which their texts are looked at; `Rule.refusal?` is what stands against a
text, and the first refusal ends the reading.

## Key results

- `Config.ofFields_toFields`: the named values of a configuration are read as that configuration
- `choice_fields`, `test_fields`: the setting of one key, unless its text is refused
- `config_fields`: the settings of all keys, unless one of their texts is refused
- `config_stored`: which stored values make a configuration, what each key means for it, and which
  failure the others give
-/

namespace ClockFace

/-- The named values of a configuration are read as that configuration. -/
theorem Config.ofFields_toFields (c : Config) : ofFields c.toFields = .ok c := by
  have hzone : readOptionalText ((c.timezone.map Value.text).getD .null) = .ok c.timezone := by
    cases c.timezone <;> rfl
  simp [ofFields, toFields, setting, Fields.value?, List.lookup_cons, readTruth, readChoice, readText,
    nameValue, problem?, valueOr, hzone]

namespace Tuning

/-! ## Stored values -/

/-- Tuning values as a host keeps them: each key with its text, or with null if it is not set. -/
abbrev Stored := List (String × Option String)

namespace Stored

/-- The stored values as values of any shape. -/
def fields (values : Stored) : Config.Fields :=
  values.map fun entry => (entry.1, (entry.2.map Value.text).getD .null)

/-- The text of a key that is set; of two entries with one key the later counts. -/
def text? (values : Stored) (key : String) : Option String :=
  (values.reverse.lookup key).join

/-- The number of a key that is set to one. -/
def number? (values : Stored) (key : String) : Option Int :=
  (values.text? key).bind fun s => (wholeOfText s).toOption

/-- The option that the number of a key selects, or the default of a key without a number. -/
def option {α : Type} (values : Stored) (key : String) (options : List α) (default : α) : α :=
  ((values.number? key).bind fun n => options[n.toNat]?).getD default

/-- Whether the number of a key passes a test, or the default of a key without a number. -/
def flag (values : Stored) (key : String) (accepts : Int → Bool) (default : Bool) : Bool :=
  ((values.number? key).map accepts).getD default

/-- The configuration that stored values make if all of them can be used. -/
def config (values : Stored) (hour24 : Bool) (locale : String) (timezone : Option String) :
    Config where
  hour24
  showSeconds := values.flag secondsKey (· != 0) false
  emphasis := if hour24 then .none else values.option emphasisKey emphasisOptions .none
  dateVisibility := values.option dateShowKey dateShowOptions .none
  dateCase := values.option dateStyleKey dateStyleOptions .asIs
  datePosition := values.option datePositionKey datePositionOptions .left
  dateFormat := (values.text? dateFormatKey).getD Config.defaultDateFormat
  locale
  timezone
  showClock := values.flag showKey (· == 1) true
  placement := values.option placementKey placementOptions .right

end Stored

theorem lookup_map_snd {α β : Type} (f : α → β) (key : String) (entries : List (String × α)) :
    (entries.map fun entry => (entry.1, f entry.2)).lookup key = (entries.lookup key).map f := by
  induction entries with
  | nil => rfl
  | cons entry rest ih =>
    rw [List.map_cons, List.lookup_cons, List.lookup_cons]
    split
    · rfl
    · exact ih

theorem value?_fields (values : Stored) (key : String) :
    value? values.fields key = (values.text? key).map Value.text := by
  rw [value?, Config.Fields.value?, Stored.fields, Stored.text?, ← List.map_reverse,
    lookup_map_snd fun text : Option String => (text.map Value.text).getD .null]
  cases values.reverse.lookup key with
  | none => rfl
  | some text => cases text <;> rfl

/-! ## The text of one key -/

/-- What a key asks of its number. -/
structure Rule where
  key : String
  /-- How many options the number selects from; none if any number will do. -/
  options : Option Nat
  deriving DecidableEq, Repr

namespace Rule

/-- The number is one that the key can do with. -/
def accepts (r : Rule) (n : Int) : Bool :=
  r.options.all fun count => 0 ≤ n && n < count

/-- What stands against a text. -/
def refusal? (r : Rule) (s : String) : Option Failure :=
  match wholeOfText s with
  | .error e => some e
  | .ok n => if r.accepts n then none else some (.tuningRange (.text s) r.key)

/-- The key is not set, or its text is a number that it can do with. -/
def Usable (r : Rule) (values : Stored) : Prop :=
  ∀ s, values.text? r.key = some s → ∃ n, wholeOfText s = .ok n ∧ r.accepts n = true

/-- What stands against the text that is kept for the key. -/
def stored? (r : Rule) (values : Stored) : Option Failure :=
  (values.text? r.key).bind r.refusal?

end Rule

section Rules

variable {values : Stored} {r : Rule} {s : String}

theorem refusal?_eq_none :
    r.refusal? s = none ↔ ∃ n, wholeOfText s = .ok n ∧ r.accepts n = true := by
  rw [Rule.refusal?]
  cases h : wholeOfText s with
  | error e => simp
  | ok n => simp

theorem kind_of_wholeOfText {e : Failure} (h : wholeOfText s = .error e) : e.kind = .value := by
  rw [wholeOfText] at h
  split at h <;> cases h <;> rfl

theorem kind_of_refusal? {e : Failure} (h : r.refusal? s = some e) : e.kind = .value := by
  rw [Rule.refusal?] at h
  cases hn : wholeOfText s with
  | error e' =>
    rw [hn] at h
    cases h
    exact kind_of_wholeOfText hn
  | ok n =>
    simp only [hn] at h
    split at h
    · cases h
    · cases h
      rfl

theorem stored?_eq_none : r.stored? values = none ↔ r.Usable values := by
  rw [Rule.stored?, Option.bind_eq_none_iff]
  exact forall₂_congr fun _ _ => refusal?_eq_none

end Rules

/-- A result that stands unless something is said against it. -/
def checked {α : Type} (refusal : Option Failure) (a : α) : Except Failure α :=
  match refusal with
  | some e => .error e
  | none => .ok a

theorem checked_eq_ok {α : Type} {refusal : Option Failure} {a b : α} :
    checked refusal a = .ok b ↔ refusal = none ∧ a = b := by
  cases refusal <;> simp [checked]

theorem checked_eq_error {α : Type} {refusal : Option Failure} {a : α} {e : Failure} :
    checked refusal a = .error e ↔ refusal = some e := by
  cases refusal <;> simp [checked]

/-- An option is selected unless the text of the key is refused. -/
theorem choice_fields {α : Type} (values : Stored) (key : String) (options : List α) (default : α) :
    choice values.fields key options default =
      checked (Rule.stored? ⟨key, some options.length⟩ values)
        (values.option key options default) := by
  rw [choice, value?_fields, Rule.stored?, Stored.option, Stored.number?]
  cases values.text? key with
  | none => rfl
  | some s =>
    simp only [Option.map_some, Option.bind_some, Value.whole, Rule.refusal?]
    cases wholeOfText s with
    | error e => rfl
    | ok n =>
      have haccepts : Rule.accepts ⟨key, some options.length⟩ n = true ↔
          0 ≤ n ∧ n.toNat < options.length := by
        simp [Rule.accepts]
        omega
      by_cases hn : 0 ≤ n ∧ n.toNat < options.length
      · have hget : options[n.toNat]? = some options[n.toNat] := List.getElem?_eq_getElem hn.2
        simp only [if_pos (haccepts.2 hn), if_neg (Int.not_lt.2 hn.1), hget, Except.toOption,
          Option.bind_some, Option.getD_some, checked]
      · have hnone : (if n < 0 then none else options[n.toNat]?) = none := by
          split
          · rfl
          · exact List.getElem?_eq_none (by omega)
        simp only [if_neg (mt haccepts.1 hn), hnone, checked]

/-- A test is passed or failed unless the text of the key is refused. -/
theorem test_fields (values : Stored) (key : String) (accepts : Int → Bool) (default : Bool) :
    test values.fields key accepts default =
      checked (Rule.stored? ⟨key, none⟩ values) (values.flag key accepts default) := by
  rw [test, value?_fields, Rule.stored?, Stored.flag, Stored.number?]
  cases values.text? key with
  | none => rfl
  | some s =>
    simp only [Option.map_some, Option.bind_some, Value.whole, Rule.refusal?]
    cases wholeOfText s <;> rfl

/-! ## All keys -/

/-- What the seven keys that take a number ask of it, in the order in which they are looked at. -/
def rules : List Rule :=
  [⟨"clock_am_pm_style", some 3⟩, ⟨"clock_seconds", none⟩, ⟨"clock_date_SHOW", some 3⟩,
    ⟨"clock_date_style", some 3⟩, ⟨"clock_date_position", some 2⟩, ⟨"clock_show", none⟩,
    ⟨"clock_style", some 3⟩]

/-- What a host knows besides the tuning values, once it is checked. -/
def hostOf (hour24 : Bool) (locale : String) (timezone : Option String) : Host where
  hour24 := .bool hour24
  locale := .text locale
  timezone := (timezone.map Value.text).getD .null

theorem checked_bind {α β : Type} (refusal next : Option Failure) (a : α) (b : α → β) :
    (checked refusal a >>= fun x => checked next (b x)) = checked (refusal.or next) (b a) := by
  cases refusal <;> rfl

theorem findSome?_cons_or {α β : Type} (f : α → Option β) (a : α) (l : List α) :
    (a :: l).findSome? f = (f a).or (l.findSome? f) := by
  rw [List.findSome?_cons]
  cases f a <;> rfl

/-- Stored values make their configuration unless one of their texts is refused, and then the first
refusal is the failure. -/
theorem config_fields (values : Stored) (hour24 : Bool) (locale : String)
    (timezone : Option String) :
    Tuning.config values.fields (hostOf hour24 locale timezone) =
      checked (rules.findSome? (·.stored? values)) (values.config hour24 locale timezone) := by
  have hformat : (value? values.fields dateFormatKey).getD (.text Config.defaultDateFormat) =
      .text ((values.text? dateFormatKey).getD Config.defaultDateFormat) := by
    rw [value?_fields, Option.getD_map]
  -- Once every text is read, nothing is left to refuse
  have hfields (emphasis : Emphasis) (showSeconds : Bool) (dateVisibility : DateVisibility)
      (dateCase : DateCase) (datePosition : DatePosition) (dateFormat : String) (showClock : Bool)
      (placement : Placement) : Config.ofFields
        [("hour24", .bool hour24), ("show_seconds", .bool showSeconds),
          ("am_pm_emphasis", Config.nameValue emphasis),
          ("date_visibility", Config.nameValue dateVisibility),
          ("date_case", Config.nameValue dateCase),
          ("date_position", Config.nameValue datePosition),
          ("date_format_pattern", .text dateFormat), ("locale", .text locale),
          ("timezone", (timezone.map Value.text).getD .null), ("show_clock", .bool showClock),
          ("placement", Config.nameValue placement)] =
      checked none ⟨hour24, showSeconds, emphasis, dateVisibility, dateCase, datePosition,
        dateFormat, locale, timezone, showClock, placement⟩ :=
    Config.ofFields_toFields ⟨hour24, showSeconds, emphasis, dateVisibility, dateCase,
      datePosition, dateFormat, locale, timezone, showClock, placement⟩
  rw [Tuning.config, hformat]
  simp only [choice_fields, test_fields, hostOf, Value.isTrue, hfields, checked_bind, rules,
    findSome?_cons_or, List.findSome?_nil]
  rfl

/-! ## What the values mean -/

/-- The choice is the option that the number of a key selects, or the default of a key that is not
set. -/
def Selects {α : Type} (values : Stored) (key : String) (options : List α) (default choice : α) :
    Prop :=
  match values.text? key with
  | none => choice = default
  | some s => ∃ n : Nat, wholeOfText s = .ok (n : Int) ∧ options[n]? = some choice

/-- The truth value says whether the number of a key passes a test, or is the default of a key that
is not set. -/
def Tells (values : Stored) (key : String) (passes : Int → Prop) (default truth : Bool) : Prop :=
  match values.text? key with
  | none => truth = default
  | some s => ∃ n : Int, wholeOfText s = .ok n ∧ (truth = true ↔ passes n)

/-- The configuration has what the stored values and the host say, setting by setting. -/
structure Reading (values : Stored) (hour24 : Bool) (locale : String) (timezone : Option String)
    (c : Config) : Prop where
  hour24 : c.hour24 = hour24
  showSeconds : Tells values "clock_seconds" (· ≠ 0) false c.showSeconds
  emphasis_of_hour24 : c.hour24 = true → c.emphasis = .none
  emphasis : c.hour24 = false →
    Selects values "clock_am_pm_style" [.none, .small, .normal] .none c.emphasis
  dateVisibility :
    Selects values "clock_date_SHOW" [.none, .small, .normal] .none c.dateVisibility
  dateCase : Selects values "clock_date_style" [.asIs, .lower, .upper] .asIs c.dateCase
  datePosition : Selects values "clock_date_position" [.left, .right] .left c.datePosition
  dateFormat : c.dateFormat = (values.text? "clock_date_format").getD "EEE"
  locale : c.locale = locale
  timezone : c.timezone = timezone
  showClock : Tells values "clock_show" (· = 1) true c.showClock
  placement : Selects values "clock_style" [.right, .center, .left] .right c.placement

section Meaning

variable {values : Stored} {key : String}

theorem selects_option {α : Type} {options : List α} {default : α}
    (h : Rule.Usable ⟨key, some options.length⟩ values) :
    Selects values key options default (values.option key options default) := by
  rw [Selects, Stored.option, Stored.number?]
  cases hs : values.text? key with
  | none => rfl
  | some s =>
    obtain ⟨n, hn, haccepts⟩ := h s hs
    have hbounds : 0 ≤ n ∧ n < options.length := by simpa [Rule.accepts] using haccepts
    have hlt : n.toNat < options.length := by omega
    have hget : options[n.toNat]? = some options[n.toNat] := List.getElem?_eq_getElem hlt
    refine ⟨n.toNat, ?_, ?_⟩
    · rw [hn, Int.toNat_of_nonneg hbounds.1]
    · simp only [Option.bind_some, hn, Except.toOption, hget, Option.getD_some]

theorem tells_flag {accepts : Int → Bool} {passes : Int → Prop} {default : Bool}
    (hpasses : ∀ n, accepts n = true ↔ passes n) (h : Rule.Usable ⟨key, none⟩ values) :
    Tells values key passes default (values.flag key accepts default) := by
  rw [Tells, Stored.flag, Stored.number?]
  cases hs : values.text? key with
  | none => rfl
  | some s =>
    obtain ⟨n, hn, -⟩ := h s hs
    refine ⟨n, hn, ?_⟩
    simp only [Option.bind_some, hn, Except.toOption, Option.map_some, Option.getD_some]
    exact hpasses n

/-- Values that can all be used settle every setting as they say. -/
theorem reading_config (h : ∀ r ∈ rules, r.Usable values) (hour24 : Bool) (locale : String)
    (timezone : Option String) :
    Reading values hour24 locale timezone (values.config hour24 locale timezone) where
  hour24 := rfl
  showSeconds := tells_flag (fun _ => bne_iff_ne) (h _ (by decide))
  emphasis_of_hour24 h24 := if_pos h24
  emphasis h24 := by
    have hemphasis : (values.config hour24 locale timezone).emphasis =
        values.option emphasisKey emphasisOptions .none :=
      if_neg (ne_true_of_eq_false h24)
    rw [hemphasis]
    exact selects_option (h _ (by decide))
  dateVisibility := selects_option (h _ (by decide))
  dateCase := selects_option (h _ (by decide))
  datePosition := selects_option (h _ (by decide))
  dateFormat := rfl
  locale := rfl
  timezone := rfl
  showClock := tells_flag (fun _ => beq_iff_eq) (h _ (by decide))
  placement := selects_option (h _ (by decide))

/-- Values under other keys do not count. -/
theorem config_fields_congr {other : Stored}
    (h : ∀ key ∈ "clock_date_format" :: rules.map Rule.key, other.text? key = values.text? key)
    (hour24 : Bool) (locale : String) (timezone : Option String) :
    Tuning.config other.fields (hostOf hour24 locale timezone) =
      Tuning.config values.fields (hostOf hour24 locale timezone) := by
  simp only [rules, List.map_cons, List.forall_mem_cons] at h
  simp only [config_fields, rules, findSome?_cons_or, List.findSome?_nil, Rule.stored?,
    Stored.config, Stored.option, Stored.flag, Stored.number?, emphasisKey, secondsKey,
    dateShowKey, dateStyleKey, datePositionKey, showKey, placementKey, dateFormatKey, h]

end Meaning

/-- Stored values make a configuration exactly if each of the seven keys that take a number is not
set or has a text that is one it can do with. Then each key settles its own setting and no other,
and a 24-hour clock goes without the AM/PM run whatever its key says. Else the failure is what
stands against the first text in the order of `rules` that cannot be used, which is the same
order under a 24-hour clock. Values under other keys do not count. -/
theorem config_stored (values : Stored) (hour24 : Bool) (locale : String)
    (timezone : Option String) :
    ((∃ c, Tuning.config values.fields (hostOf hour24 locale timezone) = .ok c) ↔
        ∀ r ∈ rules, r.Usable values) ∧
      (∀ c, Tuning.config values.fields (hostOf hour24 locale timezone) = .ok c →
        Reading values hour24 locale timezone c) ∧
      (∀ e, Tuning.config values.fields (hostOf hour24 locale timezone) = .error e →
        e.kind = .value ∧ ∃ before r after s, rules = before ++ r :: after ∧
          (∀ q ∈ before, q.Usable values) ∧ values.text? r.key = some s ∧
          r.refusal? s = some e) ∧
      ∀ other : Stored, (∀ key ∈ "clock_date_format" :: rules.map Rule.key,
          other.text? key = values.text? key) →
        Tuning.config other.fields (hostOf hour24 locale timezone) =
          Tuning.config values.fields (hostOf hour24 locale timezone) := by
  have hnone : rules.findSome? (·.stored? values) = none ↔ ∀ r ∈ rules, r.Usable values := by
    rw [List.findSome?_eq_none_iff]
    exact forall₂_congr fun _ _ => stored?_eq_none
  refine ⟨?_, fun c hc => ?_, fun e he => ?_,
    fun other hother => config_fields_congr hother hour24 locale timezone⟩
  · simp only [config_fields, checked_eq_ok, exists_and_left, exists_eq', and_true, hnone]
  · rw [config_fields, checked_eq_ok, hnone] at hc
    obtain ⟨husable, rfl⟩ := hc
    exact reading_config husable hour24 locale timezone
  · rw [config_fields, checked_eq_error, List.findSome?_eq_some_iff] at he
    obtain ⟨before, r, after, hrules, hr, hbefore⟩ := he
    obtain ⟨s, hs, hrefused⟩ := Option.bind_eq_some_iff.1 hr
    exact ⟨kind_of_refusal? hrefused, before, r, after, s, hrules,
      fun q hq => stored?_eq_none.1 (hbefore q hq), hs, hrefused⟩

/-- A 24-hour clock has no AM/PM run, but a text that selects no emphasis is refused all the same,
before the text of the place is looked at. -/
example : Tuning.config
    (Stored.fields [("clock_style", some "left"), ("clock_am_pm_style", some "3")])
    (hostOf true "en_US" none) = .error (.tuningRange (.text "3") "clock_am_pm_style") := by
  rfl

end Tuning

end ClockFace
