import ClockFace.Proofs.DemoMode

/-! # Demo commands that fail

Two demo commands can fail. Setting a demo time makes the instant before it changes anything, so a
demo time that fails is as if it had never been sent. Entering the demo mode changes the mode first
and asks for the current time then, and where the time is refused there is no way back: the clock
is in the demo mode, with nothing newly pinned, and will not follow the command a second time.

## Key results

- `demoCommand_eq_error_iff`: which demo commands fail, and why
- `state_after_demoCommand`: what a failure leaves
- `demoState_after_failed_iff`: the failures that leave the demo state
-/

namespace ClockFace

namespace Clock

open Attempt

/-- An attempt in two parts that fails in the first one leaves what that one leaves. -/
theorem after_bind_of_error {σ α β : Type} {a : Attempt σ α} {s : Session σ} {e : Failure}
    (h : outcome a s = .error e) (f : α → Attempt σ β) : after (a >>= f) s = after a s := by
  rw [after_bind, h]

section Failed

variable {around : Surroundings} {s : Session Clock} {name : String} {args : Config.Fields}
  {e : Failure}

/-- Only a demo command that pins an instant can fail, and does where there is none to pin. -/
theorem demoCommand_eq_error_iff :
    outcome (demoCommand around name args) s = .error e ↔
      newlyPinned? around s.state name args = some (.error e) := by
  cases hnew : newlyPinned? around s.state name args with
  | some result =>
    rw [(demoCommand_of_newlyPinned hnew).1, Option.some.injEq]
    cases result <;> simp [Except.map]
  | none =>
    -- What is left is to leave the mode, or to do nothing
    have hdone : outcome (demoCommand around name args) s = .ok () := by
      rw [newlyPinned?] at hnew
      rw [demoCommand, outcome_bind, outcome_state, after_state]
      split at hnew
      · cases hnew
      · next henter =>
        split at hnew
        · cases hnew
        · next hclock =>
          simp only [if_neg henter, if_neg hclock]
          split <;> rfl
    rw [hdone]
    simp

/-- Where the time is refused, the clock stays in the demo mode that it has just entered. -/
theorem state_after_enter (hdemo : s.state.demo = false) (h : around.now s.state.zone = .error e) :
    (after (demoCommand around "enter" args) s).state = { s.state with demo := true } := by
  have henter : (!s.state.demo && "enter" = "enter") = true := by rw [hdemo]; rfl
  rw [demoCommand, after_bind, outcome_state, after_state]
  dsimp only
  rw [if_pos henter, after_bind, outcome_change]
  dsimp only
  rw [after_bind_of_error, state_after_askTime]
  · rfl
  · exact h

/-- Where there is no demo time to set, nothing changes. -/
theorem state_after_clock (hdemo : s.state.demo = true)
    (h : (do demoInstant around.localZone s.state (← demoBase around s.state) args) = .error e) :
    (after (demoCommand around "clock" args) s).state = s.state := by
  have henter : ¬(!s.state.demo && "clock" = "enter") = true := by rw [hdemo]; decide
  have hexit : ¬(s.state.demo && "clock" = "exit") = true := by rw [hdemo]; decide
  have hclock : (s.state.demo && "clock" = "clock") = true := by rw [hdemo]; rfl
  rw [demoCommand, after_bind, outcome_state, after_state]
  dsimp only
  rw [if_neg henter, if_neg hexit, if_pos hclock]
  rw [demoBase] at h
  -- An instant that cannot be made is not pinned
  have hset {base : Instant} (hmade : demoInstant around.localZone s.state base args = .error e)
      {t : Session Clock} : after (do
        let instant ← Attempt.ofExcept (demoInstant around.localZone s.state base args)
        Attempt.change fun c => { c with pinned := some instant }
        Attempt.notice (.demoClockSet instant) : Attempt Clock Unit) t = t :=
    after_bind_of_error (a := Attempt.ofExcept (demoInstant around.localZone s.state base args))
      hmade _
  cases hpinned : s.state.pinned with
  | some base =>
    rw [hpinned] at h
    exact congrArg Session.state (hset h)
  | none =>
    rw [hpinned] at h
    dsimp only at h ⊢
    rw [after_bind, outcome_askTime]
    cases hnow : around.now s.state.zone with
    | error refusal => rfl
    | ok base =>
      rw [hnow] at h
      dsimp only
      rw [hset h, state_after_askTime]

/-- A demo command that fails leaves the clock as it was, but in the demo mode. -/
theorem state_after_demoCommand (h : outcome (demoCommand around name args) s = .error e) :
    (after (demoCommand around name args) s).state = { s.state with demo := true } ∧
      (s.state.demo = false → name = "enter" ∧ around.now s.state.zone = .error e) := by
  rw [demoCommand_eq_error_iff, newlyPinned?] at h
  split at h
  · next henter =>
    obtain ⟨hdemo, hname⟩ := Bool.and_eq_true_iff.1 henter
    obtain rfl := of_decide_eq_true hname
    rw [Bool.not_eq_true'] at hdemo
    have hnow := Option.some.inj h
    exact ⟨state_after_enter hdemo hnow, fun _ => ⟨rfl, hnow⟩⟩
  · split at h
    · next hclock =>
      obtain ⟨hdemo, hname⟩ := Bool.and_eq_true_iff.1 hclock
      obtain rfl := of_decide_eq_true hname
      refine ⟨?_, fun hlive => ?_⟩
      · rw [state_after_clock hdemo (Option.some.inj h), ← hdemo]
      · rw [hlive] at hdemo
        cases hdemo
    · cases h

end Failed

/-- The failures of demo commands that leave the demo state: all but one. Whatever demo command
fails, and in whatever state the clock is, everything stays except that the clock is in the demo
mode afterwards. So the demo state changes exactly if the clock was live. Then the command was to
enter the mode and the time was refused, and the clock now is in the demo mode with whatever had
been pinned before. -/
theorem demoState_after_failed_iff (around : Surroundings) {s : Session Clock} {name : String}
    {args : Config.Fields} {e : Failure}
    (h : outcome (perform around (.demo name args)) s = .error e) :
    let t := after (perform around (.demo name args)) s
    t.state = { s.state with demo := true } ∧
      (t.state.demoState = s.state.demoState ↔ ¬(s.state.demo = false ∧ name = "enter")) ∧
      (s.state.demo = false → name = "enter" ∧ around.now s.state.zone = .error e ∧
        t.state.demoState = (true, s.state.pinned)) := by
  intro t
  obtain ⟨houtcome, hafter⟩ := perform_demo_eq around s name args
  rw [houtcome] at h
  obtain ⟨hstate, hlive⟩ := state_after_demoCommand (of_map_eq_error h)
  have hleft : t.state = { s.state with demo := true } :=
    (congrArg Session.state hafter).trans hstate
  refine ⟨hleft, ?_, fun hdemo => ?_⟩
  · rw [hleft]
    cases hdemo : s.state.demo with
    | true => simp [demoState, hdemo]
    | false => simp [demoState, hdemo, (hlive hdemo).1]
  · rw [hleft]
    exact ⟨(hlive hdemo).1, (hlive hdemo).2, rfl⟩

/-- A demo clock in the last second of the last year, and a demo time that lies beyond it. -/
theorem demoState_after_failed_iff_lastYear :
    let around : Surroundings :=
      ⟨DateText.write, .ofSkeletons .localeData, Zone.table, .utc, fun _ => .error .dateRange⟩
    let i : Instant := ⟨253402300799000000, .zone .utc, false⟩
    let clock : Clock := ⟨{ timezone := some "UTC" }, some .utc, true, some i,
      Selector.fresh⟩
    let command : Command := .demo "clock" [("hhmm", .text "9999")]
    outcome (perform around command) ⟨clock, []⟩ = .error .dateRange ∧
      (after (perform around command) ⟨clock, []⟩).state.demoState = clock.demoState := by
  intro around i clock command
  have hfailed : outcome (perform around command) ⟨clock, []⟩ = .error .dateRange := by
    rfl
  exact ⟨hfailed, (demoState_after_failed_iff around hfailed).2.1.2 (by decide)⟩

/-- A live clock is told to enter the demo mode, and its source of the time is past the last year.
The command fails, and the clock is in the demo mode all the same. -/
theorem demoState_after_failed_ne :
    let around : Surroundings :=
      ⟨DateText.write, .ofSkeletons .localeData, Zone.table, .utc,
        fun _ => .error (.yearRange 10000)⟩
    let clock : Clock := ⟨{ timezone := some "UTC" }, some .utc, false, none,
      Selector.fresh⟩
    let t := after (perform around (.demo "enter" [])) ⟨clock, []⟩
    ofConfig Zone.table { timezone := some "UTC" } = .ok clock ∧
      outcome (perform around (.demo "enter" [])) ⟨clock, []⟩ = .error (.yearRange 10000) ∧
      clock.demoState = (false, none) ∧ t.state.demoState = (true, none) ∧
      t.state.demoState ≠ clock.demoState :=
  ⟨rfl, rfl, rfl, rfl, by decide⟩

end Clock

end ClockFace
