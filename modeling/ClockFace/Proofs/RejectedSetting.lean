import ClockFace.Proofs.ClockHistory

/-! # Settings that are rejected

A change of the settings is rejected for one reason: it names a zone that does not exist. The
zone is looked up before anything changes, and so a rejected change leaves no trace. A clock
whose zone is the one that its configuration names does not look it up again when the same
name is sent once more, but then the name is one that exists; a name that does not is looked
up, and rejected, whenever it is sent.

`Clock.replies` lists the calls of a run with what came of each.

## Key results

- `updateConfig_run`: only finding the zone can fail about a new configuration
- `outcome_of_zoneSetting`: a zone setting is taken exactly if its zone exists
- `of_rejected`: a rejected setting changes nothing
- `replies_accepted`: the other calls do not notice that it was sent
- `history_without_rejected`: a rejected setting is as if it had never been sent
-/

namespace ClockFace

/-- The zone setting that a command sends. -/
def Command.zoneSetting? : Command → Option (Option String)
  | .updateConfig config => some config.timezone
  | .changeTimezone name => some name
  | .changeLocale _ | .demo _ _ | .render _ => none

/-- The command changes the settings of the clock. -/
def Command.isSetting : Command → Bool
  | .updateConfig _ | .changeLocale _ | .changeTimezone _ => true
  | .demo _ _ | .render _ => false

namespace Clock

open Attempt

/-! ## New configurations -/

theorem outcome_invalidate (s : Session Selector) : outcome Selector.invalidate s = .ok () := by
  rw [Selector.invalidate, outcome_bind, outcome_state]
  dsimp only
  cases s.state.cachedKey <;> rfl

section Update

variable {zones : ZoneTable} {s : Session Clock} {config : Config}

/-- The zone that a clock gets with a configuration: its own if the setting stays, else the one
that the new setting names. -/
def zoneFor (zones : ZoneTable) (c : Clock) (config : Config) : Except Failure (Option Zone) :=
  if config.timezone ≠ c.config.timezone then ZoneName.resolve zones config.timezone
  else .ok c.zone

/-- Only finding the zone can fail about a new configuration, and then nothing changes. -/
theorem updateConfig_run (zones : ZoneTable) (config : Config) (s : Session Clock) :
    outcome (updateConfig zones config) s = (zoneFor zones s.state config).map (fun _ => ()) ∧
      ∀ e, zoneFor zones s.state config = .error e →
        after (updateConfig zones config) s = s := by
  -- Once the zone is known, nothing fails any more
  have hfinish (zone : Option Zone) : outcome (do
      Attempt.change fun c => { c with config, zone }
      if config.locale ≠ s.state.config.locale then
        onSelector Selector.invalidate
      Attempt.notice (.configUpdated config)) s = .ok () := by
    rw [outcome_bind, outcome_change]
    dsimp only
    split
    · rw [outcome_bind, onSelector, outcome_zoom, outcome_invalidate]
      rfl
    · rfl
  rw [updateConfig, outcome_bind, after_bind, outcome_state, after_state, zoneFor]
  dsimp only
  by_cases hsame : config.timezone ≠ s.state.config.timezone
  · simp only [if_pos hsame, outcome_bind, after_bind, outcome_ofExcept, after_ofExcept]
    cases hzone : ZoneName.resolve zones config.timezone with
    | error e => exact ⟨rfl, fun _ _ => rfl⟩
    | ok zone => exact ⟨hfinish zone, fun e he => by cases he⟩
  · simp only [if_neg hsame]
    exact ⟨hfinish s.state.zone, fun e he => by cases he⟩

/-- A configuration that is rejected changes nothing. -/
theorem after_updateConfig_of_error {e : Failure}
    (h : outcome (updateConfig zones config) s = .error e) :
    after (updateConfig zones config) s = s := by
  obtain ⟨houtcome, hafter⟩ := updateConfig_run zones config s
  rw [houtcome] at h
  cases hzone : zoneFor zones s.state config with
  | error e' => exact hafter e' hzone
  | ok zone =>
    rw [hzone] at h
    cases h

/-- A clock that has the zone that its configuration names takes a configuration exactly if that
names a zone that exists. -/
theorem zoneFor_of_resolve {c : Clock}
    (h : ZoneName.resolve zones c.config.timezone = .ok c.zone) :
    zoneFor zones c config = ZoneName.resolve zones config.timezone := by
  rw [zoneFor]
  split
  · rfl
  · next hsame =>
    rw [← h, Decidable.not_not.1 hsame]

end Update

/-! ## Calls -/

/-- What comes of a call on a session. -/
def Call.outcome (around : Surroundings) (s : Session Clock) (c : Call) :
    Except Failure (Option Face) :=
  Attempt.outcome (perform { around with localZone := c.localZone, now := c.now } c.command) s

section Calls

variable {around : Surroundings} {s : Session Clock} {c : Call}

/-- A clock that has the zone that its configuration names takes a zone setting exactly if it
names a zone that exists, whatever else comes with it. -/
theorem outcome_of_zoneSetting
    (h : ZoneName.resolve around.zones s.state.config.timezone = .ok s.state.zone)
    {name : Option String} (hname : c.command.zoneSetting? = some name) :
    c.outcome around s = (ZoneName.resolve around.zones name).map (fun _ => none) := by
  obtain ⟨localZone, now, command⟩ := c
  cases command with
  | updateConfig config =>
    obtain rfl := Option.some.inj hname
    rw [Call.outcome, perform, outcome_bind_pure, (updateConfig_run _ config s).1,
      zoneFor_of_resolve h]
    cases ZoneName.resolve around.zones config.timezone <;> rfl
  | changeTimezone zoneName =>
    obtain rfl := Option.some.inj hname
    rw [Call.outcome, perform, outcome_bind_pure, changeTimezone, outcome_bind, outcome_state]
    dsimp only
    rw [after_state, (updateConfig_run _ _ s).1, zoneFor_of_resolve h]
    cases ZoneName.resolve around.zones zoneName <;> rfl
  | changeLocale tag => cases hname
  | demo name args => cases hname
  | render time => cases hname

/-- A new locale comes with the zone that the clock has already, and is never rejected. -/
theorem outcome_changeLocale (zones : ZoneTable) (tag : String) (s : Session Clock) :
    Attempt.outcome (changeLocale zones tag) s = .ok () := by
  rw [changeLocale, outcome_bind, outcome_state, after_state]
  dsimp only
  split
  · rw [(updateConfig_run _ _ s).1, zoneFor, if_neg (not_not_intro rfl)]
    rfl
  · rfl

/-- A setting that is rejected changes nothing, and names a zone. -/
theorem of_rejected (hsetting : c.command.isSetting = true) {e : Failure}
    (he : c.outcome around s = .error e) :
    c.after around s = s ∧ ∃ name, c.command.zoneSetting? = some name := by
  obtain ⟨localZone, now, command⟩ := c
  cases command with
  | updateConfig config =>
    rw [Call.outcome, perform, outcome_bind_pure] at he
    rw [Call.after, perform, after_bind_pure]
    exact ⟨after_updateConfig_of_error (of_map_eq_error he), _, rfl⟩
  | changeTimezone name =>
    rw [Call.outcome, perform, outcome_bind_pure, changeTimezone, outcome_bind, outcome_state,
      after_state] at he
    rw [Call.after, perform, after_bind_pure, changeTimezone, after_bind, outcome_state,
      after_state]
    exact ⟨after_updateConfig_of_error (of_map_eq_error he), _, rfl⟩
  | changeLocale tag =>
    rw [Call.outcome, perform, outcome_bind_pure, outcome_changeLocale] at he
    cases he
  | demo name args => cases hsetting
  | render time => cases hsetting

end Calls

/-! ## Runs -/

/-- A call and what came of it. -/
structure Reply where
  call : Call
  result : Except Failure (Option Face)

/-- The call sent a setting that was rejected. -/
def Reply.isRejected (r : Reply) : Bool :=
  r.call.command.isSetting && !r.result.isOk

/-- The calls of a run from a session with what came of each, the first one first. -/
def replies (around : Surroundings) : Session Clock → List Call → List Reply
  | _, [] => []
  | s, c :: rest => ⟨c, c.outcome around s⟩ :: replies around (c.after around s) rest

section Replies

variable {around : Surroundings}

theorem Reply.of_isRejected {r : Reply} (h : r.isRejected = true) :
    r.call.command.isSetting = true ∧ ∃ e, r.result = .error e := by
  obtain ⟨hsetting, hresult⟩ := Bool.and_eq_true_iff.1 h
  refine ⟨hsetting, ?_⟩
  cases hr : r.result with
  | error e => exact ⟨e, rfl⟩
  | ok face =>
    rw [hr] at hresult
    cases hresult

/-- Without the settings that were rejected, every other call has the same reply, and the run
ends in the same session. -/
theorem replies_accepted (around : Surroundings) (s : Session Clock) (calls : List Call) :
    let accepted := (replies around s calls).filter (!·.isRejected)
    replies around s (accepted.map Reply.call) = accepted ∧
      (accepted.map Reply.call).foldl (Call.after around) s =
        calls.foldl (Call.after around) s := by
  -- The induction goes over the calls that are left, from any session
  induction calls generalizing s with
  | nil => exact ⟨rfl, rfl⟩
  | cons c rest ih =>
    obtain ⟨hreplies, hend⟩ := ih (c.after around s)
    cases hrejected : Reply.isRejected ⟨c, c.outcome around s⟩ with
    | true =>
      obtain ⟨hsetting, e, he⟩ := Reply.of_isRejected hrejected
      have hsame := (of_rejected hsetting he).1
      rw [hsame] at hreplies hend
      simp only [replies, List.filter_cons, hrejected, hsame, List.foldl_cons]
      exact ⟨hreplies, hend⟩
    | false =>
      simp only [replies, List.filter_cons, hrejected, List.foldl_cons]
      exact ⟨congrArg _ hreplies, hend⟩

/-- Every reply is the one of a sound clock. -/
theorem exists_session_of_mem {s : Session Clock} (h : Sound around.zones around.formats s.state)
    {calls : List Call} {r : Reply} (hr : r ∈ replies around s calls) :
    ∃ t : Session Clock, Sound around.zones around.formats t.state ∧
      r.call.outcome around t = r.result := by
  induction calls generalizing s with
  | nil => cases hr
  | cons c rest ih =>
    obtain rfl | hrest := List.mem_cons.1 hr
    · exact ⟨s, h, rfl⟩
    · exact ih (keeps_perform { around with localZone := c.localZone, now := c.now } _ s h) hrest

end Replies

/-- A setting that is rejected is as if it had never been sent.

Take the settings that were rejected out of a run. Every other call still gives what it gave,
and the clock ends in the same session: with the same configuration, zone, demo state and
selector, and it has asked the same of its surroundings. The rejected settings named zones, and
whatever names one of these is rejected at the end of the run too, for the same reason. -/
theorem history_without_rejected (around : Surroundings) (requests : List Selector.Request)
    {config : Config} {clock : Clock}
    (h : withSelector around.zones (Selector.history around.formats requests).state config =
      .ok clock)
    (calls : List Call) :
    let heard := replies around ⟨clock, []⟩ calls
    let accepted := heard.filter (!·.isRejected)
    replies around ⟨clock, []⟩ (accepted.map Reply.call) = accepted ∧
      history around clock (accepted.map Reply.call) = history around clock calls ∧
      ∀ r ∈ heard, r.isRejected = true → ∃ name, r.call.command.zoneSetting? = some name ∧
        ∀ again : Call, again.command.zoneSetting? = some name →
          again.outcome around (history around clock calls) = r.result := by
  intro heard accepted
  have hclock := sound_of_withSelector (Selector.sound_history around.formats requests) h
  obtain ⟨hreplies, hend⟩ := replies_accepted around ⟨clock, []⟩ calls
  refine ⟨hreplies, hend, fun r hr hrejected => ?_⟩
  obtain ⟨t, ht, hresult⟩ := exists_session_of_mem hclock hr
  obtain ⟨hsetting, e, he⟩ := Reply.of_isRejected hrejected
  obtain ⟨-, name, hname⟩ := of_rejected hsetting (hresult.trans he)
  refine ⟨name, hname, fun again hagain => ?_⟩
  rw [← hresult, outcome_of_zoneSetting (sound_history around hclock calls).zone hagain,
    outcome_of_zoneSetting ht.zone hname]

/-- Of seven calls two are rejected, a zone alone and one that comes with a new locale. Without
them the five others make the same run, at whose end the zone is rejected once more. -/
theorem history_without_rejected_mars :
    let around : Surroundings :=
      ⟨DateText.write, .ofSkeletons .localeData, Zone.table, .utc,
        (atMoment .utc · 1704899045000000)⟩
    let clock : Clock := ⟨{}, none, false, none, Selector.fresh⟩
    let calls : List Call :=
      [.render none, .changeTimezone (some "Mars/Base"), .demo "enter" [],
        .updateConfig { locale := "de_DE", timezone := some "Moon" }, .render none,
        .changeLocale "de_DE", .changeTimezone (some "Asia/Tokyo")].map
          (Call.mk around.localZone around.now)
    let heard := replies around ⟨clock, []⟩ calls
    let accepted := heard.filter (!·.isRejected)
    withSelector around.zones (Selector.history around.formats []).state {} = .ok clock ∧
      heard.map Reply.isRejected = [false, true, false, true, false, false, false] ∧
      history around clock (accepted.map Reply.call) = history around clock calls ∧
      (history around clock calls).state.config.timezone = some "Asia/Tokyo" ∧
      Call.outcome around (history around clock calls)
        ⟨around.localZone, around.now, .changeTimezone (some "Mars/Base")⟩ =
          .error (.unknownZone "Mars/Base") := by
  intro around clock calls heard accepted
  have hclock :
      withSelector around.zones (Selector.history around.formats []).state {} = .ok clock := rfl
  let sent : Call := ⟨around.localZone, around.now, .changeTimezone (some "Mars/Base")⟩
  let found : Session Clock :=
    Call.after around ⟨clock, []⟩ ⟨around.localZone, around.now, .render none⟩
  let reply : Reply := ⟨sent, sent.outcome around found⟩
  have hzone : ZoneName.resolve around.zones found.state.config.timezone =
      .ok found.state.zone :=
    eq_ok_of_toOption (by decide +kernel)
  have hresolve : ZoneName.resolve around.zones (some "Mars/Base") =
      .error (.unknownZone "Mars/Base") := rfl
  have hresult : reply.result = .error (.unknownZone "Mars/Base") :=
    (outcome_of_zoneSetting hzone rfl).trans (by rw [hresolve]; rfl)
  obtain ⟨-, hend, hagain⟩ := history_without_rejected around [] hclock calls
  obtain ⟨name, hname, hagain⟩ := hagain reply (.tail _ (.head _)) (by decide +kernel)
  exact ⟨hclock, by decide +kernel, hend, by decide +kernel,
    (hagain sent hname).trans hresult⟩

end Clock

end ClockFace
