import ClockFace.Proofs.SelectorHistory

/-! # What a selector keeps

A selector keeps the formats of the last request that it could answer, unless they were
dropped since. Here every request comes with a source of its own: patterns may be found or
compile at one time and not at another, so that a request can fail at every stage.

`Selector.Log` notes what came of the requests, the last one first, and `latest?` looks
back in it for the formats that should be kept. `Log.Faithful` ties the selector to this:
its cache holds what `latest?` finds, and the formats given so far have lower numbers than
those it makes next.

## Key results

- `make_ok`: what making formats asks of the compiler
- `faithful_ofCalls`: every log is faithful, whatever failed
- `resolve_of_latest`: what is kept, what is given again and what is made anew
-/

namespace ClockFace

namespace Cache

variable {κ υ : Type}

/-- The cache of an entry, or the empty one. -/
def ofOption : Option (κ × υ) → Cache κ υ
  | none => empty
  | some (key, value) => ⟨some key, some value⟩

theorem lastKey_ofOption (entry : Option (κ × υ)) :
    (ofOption entry).lastKey = entry.map Prod.fst := by
  cases entry <;> rfl

theorem find?_ofOption_eq_some_iff [BEq κ] [LawfulBEq κ] {entry : Option (κ × υ)} {key : κ}
    {value : υ} : (ofOption entry).find? key = some value ↔ entry = some (key, value) := by
  cases entry with
  | none => simp [ofOption]
  | some kept =>
    obtain ⟨other, keptValue⟩ := kept
    by_cases hsame : other = key <;> simp [ofOption, find?, hsame]

end Cache

namespace Selector

open Attempt

/-! ## Making formats -/

/-- Finding patterns compiles nothing. -/
theorem compiled_after_skeletons (source : FormatSource) (tag : String) (s : Session Selector) :
    (after (skeletons source tag) s).compiled = s.compiled := by
  cases hsource : source.skeletons with
  | static find => simp only [skeletons, hsource, after_ofExcept]
  | localeData =>
    simp only [skeletons, hsource, after_bind, outcome_state, after_state]
    cases s.state.loaded.lookup tag with
    | some found => rfl
    | none =>
      simp only [after_bind, outcome_ofExcept, after_ofExcept]
      cases (source.locales tag).map (·.data.skeletons) with
      | error e => rfl
      | ok found => exact compiled_after_notice ..

/-- A format gives its pattern to the compiler, once. -/
theorem compiled_after_format (source : FormatSource) (locale : Locale) (pattern : List Char)
    (s : Session Selector) :
    (after (format source locale pattern) s).compiled = s.compiled ++ [pattern] := by
  rw [← compiled_after_compiled, format, after_bind, outcome_event]
  simp only [after_bind, outcome_ofExcept, after_ofExcept]
  cases source.compile pattern <;> rfl

theorem pattern_of_format_eq_ok {source : FormatSource} {locale : Locale} {pattern : List Char}
    {made : TimeFormat} (h : source.format locale pattern = .ok made) : made.pattern = pattern := by
  obtain ⟨compiled, -, rfl⟩ := of_map_eq_ok h
  rfl

section Make

variable {source : FormatSource} {key : PatternKey} {s : Session Selector} {made : TimeFormats}

/-- Formats that are made come from the time patterns that were found. The compiler is
given the pattern for display and then the one for reading aloud, and nothing else. -/
theorem make_ok (h : outcome (make source key) s = .ok made) :
    ∃ found, outcome (skeletons source key.locale) s = .ok found ∧
      made.spoken.pattern = (found.select key.hour24 key.showSeconds).toList ∧
      made.display.pattern = displayPattern key.emphasis made.spoken.pattern ∧
      (after (make source key) s).compiled =
        s.compiled ++ [made.display.pattern, made.spoken.pattern] := by
  -- One part of the attempt after the other, each from the session that the last one left
  obtain ⟨found, hfound, h, hskeletons⟩ := bind_eq_ok h
  obtain ⟨locale, -, h, hlocale⟩ := bind_eq_ok h
  obtain ⟨display, hdisplay, h, hafterDisplay⟩ := bind_eq_ok h
  obtain ⟨spoken, hspoken, h, hafterSpoken⟩ := bind_eq_ok h
  obtain rfl := Except.ok.inj h
  rw [outcome_format] at hdisplay hspoken
  have hshown := pattern_of_format_eq_ok hdisplay
  have hsaid := pattern_of_format_eq_ok hspoken
  refine ⟨found, hfound, hsaid, ?_, ?_⟩
  · rw [hshown, hsaid]
  · rw [make, hskeletons, hlocale, hafterDisplay, hafterSpoken]
    simp only [after_bind, outcome_notice, outcome_state, after_state, outcome_change, after_pure,
      compiled_after_change, compiled_after_notice, compiled_after_format, after_ofExcept,
      compiled_after_skeletons, hshown, hsaid]
    rw [List.append_assoc]
    rfl

/-- Formats that are made have the next number, and they alone are kept. -/
theorem state_make_of_ok (h : outcome (make source key) s = .ok made) :
    made.serial = s.state.made ∧
      (after (make source key) s).state.cache = Cache.ofOption (some (key, made)) ∧
      (after (make source key) s).state.made = s.state.made + 1 := by
  obtain ⟨houtcome, hstate⟩ := make_run source key s
  rw [houtcome] at h
  obtain ⟨both, hboth, rfl⟩ := of_map_eq_ok h
  rw [hboth] at hstate
  rw [hstate]
  exact ⟨rfl, rfl, rfl⟩

/-- Where formats cannot be made, those that are kept stay, and so does the next number. -/
theorem state_make_of_error {e : Failure} (h : outcome (make source key) s = .error e) :
    (after (make source key) s).state.cache = s.state.cache ∧
      (after (make source key) s).state.made = s.state.made := by
  obtain ⟨houtcome, hstate⟩ := make_run source key s
  rw [houtcome] at h
  cases hmade : outcome (skeletons source key.locale) s >>= source.formatsFrom key with
  | error e' =>
    rw [hmade] at hstate
    rw [hstate]
    exact after_skeletons_frame source key.locale s
  | ok both =>
    rw [hmade] at h
    cases h

/-- Formats that are kept are given again, and nothing happens. -/
theorem resolve_of_kept (source : FormatSource) (h : s.state.cache.find? key = some made) :
    outcome (resolve source key) s = .ok made ∧ after (resolve source key) s = s := by
  simp only [resolve, outcome_bind, after_bind, outcome_state, after_state, h, outcome_pure,
    after_pure, and_self]

/-- Formats that are not kept are made. -/
theorem resolve_of_not_kept (source : FormatSource) (h : s.state.cache.find? key = none) :
    outcome (resolve source key) s = outcome (make source key) s ∧
      after (resolve source key) s = after (make source key) s := by
  simp only [resolve, outcome_bind, after_bind, outcome_state, after_state, h, and_self]

/-- A request that fails leaves the formats that are kept, and the next number. -/
theorem state_resolve_of_error {e : Failure} (h : outcome (resolve source key) s = .error e) :
    (after (resolve source key) s).state.cache = s.state.cache ∧
      (after (resolve source key) s).state.made = s.state.made := by
  cases hkept : s.state.cache.find? key with
  | some kept =>
    rw [(resolve_of_kept source hkept).1] at h
    cases h
  | none =>
    obtain ⟨houtcome, hafter⟩ := resolve_of_not_kept source hkept
    rw [houtcome] at h
    rw [hafter]
    exact state_make_of_error h

end Make

/-! ## Logs -/

/-- A request, and the source that answers it at that time. -/
structure Call where
  source : FormatSource
  request : Request

/-- What comes of a request. -/
inductive Reply where
  | answered (key : PatternKey) (answer : Except Failure TimeFormats)
  | dropped

/-- What comes of a call on a session. -/
def Call.reply (s : Session Selector) (c : Call) : Reply :=
  match c.request with
  | .resolve key => .answered key (outcome (resolve c.source key) s)
  | .invalidate => .dropped

/-- The session of a selector and what came of the calls on it, the last one first. -/
structure Log where
  session : Session Selector
  replies : List Reply

namespace Log

/-- One more call. -/
def add (log : Log) (c : Call) : Log :=
  ⟨c.request.after c.source log.session, c.reply log.session :: log.replies⟩

/-- The log of calls on a new selector, the first one first. -/
def ofCalls (calls : List Call) : Log :=
  calls.foldl add ⟨⟨fresh, []⟩, []⟩

end Log

/-- The key and the formats of the last request that was answered, looking back over those
that failed until formats were dropped. -/
def latest? : List Reply → Option (PatternKey × TimeFormats)
  | [] => none
  | .dropped :: _ => none
  | .answered key (.ok made) :: _ => some (key, made)
  | .answered _ (.error _) :: earlier => latest? earlier

theorem mem_of_latest? {replies : List Reply} {key : PatternKey} {made : TimeFormats}
    (h : latest? replies = some (key, made)) : .answered key (.ok made) ∈ replies := by
  fun_induction latest? replies with
  | case1 => cases h
  | case2 => cases h
  | case3 other given earlier =>
    obtain ⟨rfl, rfl⟩ := Prod.mk.inj (Option.some.inj h)
    exact List.mem_cons_self
  | case4 other e earlier ih => exact List.mem_cons_of_mem _ (ih h)

/-- The selector keeps what the log says, and its numbers go up. -/
structure Log.Faithful (log : Log) : Prop where
  cache : log.session.state.cache = Cache.ofOption (latest? log.replies)
  numbered : ∀ key made, .answered key (.ok made) ∈ log.replies →
    made.serial < log.session.state.made

variable {log : Log}

/-- Formats are kept under a key exactly if the log says so. -/
theorem Log.Faithful.find?_eq_some_iff (h : log.Faithful) {key : PatternKey} {made : TimeFormats} :
    log.session.state.cache.find? key = some made ↔ latest? log.replies = some (key, made) := by
  rw [h.cache, Cache.find?_ofOption_eq_some_iff]

/-- A request for formats, whatever comes of it, leaves the log faithful. -/
theorem faithful_add_resolve (h : log.Faithful) (source : FormatSource) (key : PatternKey) :
    (log.add ⟨source, .resolve key⟩).Faithful := by
  show Log.Faithful ⟨after (resolve source key) log.session,
    .answered key (outcome (resolve source key) log.session) :: log.replies⟩
  cases hanswer : outcome (resolve source key) log.session with
  | error e =>
    -- The cache stays, and the log looks past the failure
    obtain ⟨hcache, hmade⟩ := state_resolve_of_error hanswer
    refine ⟨hcache.trans h.cache, fun other given hmem => ?_⟩
    obtain hhead | hmem := List.mem_cons.1 hmem
    · cases hhead
    · rw [hmade]
      exact h.numbered other given hmem
  | ok made =>
    cases hkept : log.session.state.cache.find? key with
    | some kept =>
      -- The same formats once more, which the log already knows
      obtain ⟨houtcome, hafter⟩ := resolve_of_kept source hkept
      rw [houtcome] at hanswer
      obtain rfl := Except.ok.inj hanswer
      have hlatest := h.find?_eq_some_iff.1 hkept
      rw [hafter]
      refine ⟨?_, fun other given hmem => ?_⟩
      · rw [h.cache, hlatest]
        rfl
      · obtain hhead | hmem := List.mem_cons.1 hmem
        · obtain ⟨rfl, hgiven⟩ := Reply.answered.inj hhead
          obtain rfl := Except.ok.inj hgiven
          exact h.numbered _ _ (mem_of_latest? hlatest)
        · exact h.numbered other given hmem
    | none =>
      -- New formats, with a number above all others
      obtain ⟨houtcome, hafter⟩ := resolve_of_not_kept source hkept
      rw [houtcome] at hanswer
      obtain ⟨hserial, hcache, hmade⟩ := state_make_of_ok hanswer
      rw [hafter]
      refine ⟨hcache, fun other given hmem => ?_⟩
      rw [hmade]
      obtain hhead | hmem := List.mem_cons.1 hmem
      · obtain ⟨-, hgiven⟩ := Reply.answered.inj hhead
        obtain rfl := Except.ok.inj hgiven
        rw [hserial]
        exact Nat.lt_succ_self _
      · exact Nat.lt_succ_of_lt (h.numbered other given hmem)

/-- Dropping the formats leaves the log faithful. -/
theorem faithful_add_invalidate (h : log.Faithful) (source : FormatSource) :
    (log.add ⟨source, .invalidate⟩).Faithful := by
  have hstate : (after invalidate log.session).state =
      { log.session.state with cache := Cache.empty } := by
    simp only [invalidate, after_bind, outcome_state, after_state]
    cases log.session.state.cachedKey <;> rfl
  refine ⟨congrArg Selector.cache hstate, fun key made hmem => ?_⟩
  obtain hhead | hmem := List.mem_cons.1 hmem
  · cases hhead
  · exact Nat.lt_of_lt_of_eq (h.numbered key made hmem) (congrArg Selector.made hstate).symm

theorem faithful_add (h : log.Faithful) (c : Call) : (log.add c).Faithful := by
  obtain ⟨source, request⟩ := c
  cases request with
  | resolve key => exact faithful_add_resolve h source key
  | invalidate => exact faithful_add_invalidate h source

/-- Whatever a selector is asked, and whatever fails, its log is faithful. -/
theorem faithful_ofCalls (calls : List Call) : (Log.ofCalls calls).Faithful :=
  List.foldlRecOn calls Log.add ⟨rfl, fun _ _ hmem => absurd hmem List.not_mem_nil⟩
    fun _ h c _ => faithful_add h c

/-- What a selector keeps, and what it makes of one more request.

It keeps the formats of the last request that was answered since it dropped any. It gives
them again for their key, and then nothing happens, nor is anything compiled. Formats for
another key are new ones, whose number no formats had before; the compiler is given their
pattern for display and then the base pattern. A request that fails leaves the cache as it
was. -/
theorem resolve_of_latest (calls : List Call) (source : FormatSource) (key : PatternKey) :
    let log := Log.ofCalls calls
    let s := log.session
    s.state.cachedKey = (latest? log.replies).map Prod.fst ∧
      (∀ kept, latest? log.replies = some (key, kept) →
        outcome (resolve source key) s = .ok kept ∧ after (resolve source key) s = s) ∧
      (s.state.cachedKey ≠ some key → ∀ made, outcome (resolve source key) s = .ok made →
        (∀ other given, .answered other (.ok given) ∈ log.replies → given.serial ≠ made.serial) ∧
        ∃ found, outcome (skeletons source key.locale) s = .ok found ∧
          made.spoken.pattern = (found.select key.hour24 key.showSeconds).toList ∧
          made.display.pattern = displayPattern key.emphasis made.spoken.pattern ∧
          (after (resolve source key) s).compiled =
            s.compiled ++ [made.display.pattern, made.spoken.pattern]) ∧
      ∀ e, outcome (resolve source key) s = .error e →
        (after (resolve source key) s).state.cache = s.state.cache := by
  intro log s
  have hfaithful : log.Faithful := faithful_ofCalls calls
  have hkey : s.state.cachedKey = (latest? log.replies).map Prod.fst := by
    rw [cachedKey, hfaithful.cache, Cache.lastKey_ofOption]
  refine ⟨hkey, fun kept hkept => ?_, fun hother made hmade => ?_, fun e he => ?_⟩
  · exact resolve_of_kept source (hfaithful.find?_eq_some_iff.2 hkept)
  · have hnone : s.state.cache.find? key = none := by
      rw [Option.eq_none_iff_forall_ne_some]
      intro kept hkept
      rw [hkey, hfaithful.find?_eq_some_iff.1 hkept] at hother
      exact hother rfl
    obtain ⟨houtcome, hafter⟩ := resolve_of_not_kept source hnone
    rw [houtcome] at hmade
    rw [hafter]
    refine ⟨fun other given hmem => ?_, make_ok hmade⟩
    rw [(state_make_of_ok hmade).1]
    exact Nat.ne_of_lt (hfaithful.numbered other given hmem)
  · exact (state_resolve_of_error he).1

/-- Formats are kept over a request that fails in the compiler, and given again while the
compiler still fails. The other key gets new formats once patterns compile again. -/
theorem resolve_of_latest_after_failure :
    let sound : FormatSource :=
      .ofSkeletons (.table [] (some ⟨"HH:mm:ss", "h:mm:ss a", "HH:mm", "h:mm a"⟩))
    let broken : FormatSource := { sound with compile := fun _ => .error .doubleRange }
    let key : PatternKey := ⟨"en_US", false, false, .small⟩
    let other : PatternKey := { key with hour24 := true }
    let log := Log.ofCalls [⟨sound, .resolve key⟩, ⟨broken, .resolve other⟩]
    let s := log.session
    s.state.cachedKey = some key ∧
      (∃ kept, latest? log.replies = some (key, kept) ∧
        outcome (resolve broken key) s = .ok kept ∧ after (resolve broken key) s = s) ∧
      (∃ made, outcome (resolve sound other) s = .ok made ∧ made.serial = 1 ∧
        (after (resolve sound other) s).compiled =
          s.compiled ++ [made.display.pattern, made.spoken.pattern]) ∧
      (after (resolve broken other) s).state.cache = s.state.cache := by
  intro sound broken key other log s
  have hlatest : (latest? log.replies).map Prod.fst = some key := by decide +kernel
  have hmade : (outcome (resolve sound other) s).toOption.map TimeFormats.serial = some 1 := by
    decide +kernel
  have hfailed : (outcome (resolve broken other) s).toOption.isNone = true := by decide +kernel
  obtain ⟨⟨_, kept⟩, hkept, rfl⟩ := Option.map_eq_some_iff.1 hlatest
  obtain ⟨made, hmade, hserial⟩ := Option.map_eq_some_iff.1 hmade
  have hmade := eq_ok_of_toOption hmade
  obtain ⟨hkey, hagain, -, -⟩ := resolve_of_latest
    [⟨sound, .resolve key⟩, ⟨broken, .resolve other⟩] broken key
  obtain ⟨-, -, hnew, -⟩ := resolve_of_latest
    [⟨sound, .resolve key⟩, ⟨broken, .resolve other⟩] sound other
  obtain ⟨-, -, -, hfails⟩ := resolve_of_latest
    [⟨sound, .resolve key⟩, ⟨broken, .resolve other⟩] broken other
  have hkey : s.state.cachedKey = some key := hkey.trans hlatest
  have hother : s.state.cachedKey ≠ some other := by
    rw [hkey]
    decide
  obtain ⟨-, found, -, -, -, hcompiled⟩ := hnew hother made hmade
  refine ⟨hkey, ⟨kept, hkept, hagain kept hkept⟩, ⟨made, hmade, hserial, hcompiled⟩, ?_⟩
  cases hanswer : outcome (resolve broken other) s with
  | error e => exact hfails e hanswer
  | ok given =>
    rw [hanswer] at hfailed
    cases hfailed

end Selector

end ClockFace
