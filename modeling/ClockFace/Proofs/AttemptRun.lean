import ClockFace.Run.Attempt

/-! # Running attempts

What an attempt gives on a session and what session it leaves, one lemma for each way in
which attempts are built. With these, a statement about a run of the clock becomes one
about results and states, and no later proof opens the transformer stack. `run_bind` is
the same for any computation on a state that may fail.

`Attempt.Keeps` is for what an attempt does not change, `Attempt.Silent` for what it does not
ask, and `Session.compiled` for what it asks of the compiler, with a lemma each for the ways
in which attempts are built. -/

namespace ClockFace

/-! ## Results -/

/-- Failures cannot be compared, but a result can be computed and found not to be one. -/
theorem eq_ok_of_toOption {α : Type} {r : Except Failure α} {x : α}
    (h : r.toOption = some x) : r = .ok x := by
  cases r with
  | error e => cases h
  | ok y => exact congrArg Except.ok (Option.some.inj h)

/-- A result that was worked on comes from a result. -/
theorem of_map_eq_ok {α β : Type} {r : Except Failure α} {f : α → β} {y : β}
    (h : r.map f = .ok y) : ∃ x, r = .ok x ∧ f x = y := by
  cases r with
  | error e => cases h
  | ok x => exact ⟨x, rfl, Except.ok.inj h⟩

/-- Working on results mends no failure. -/
theorem of_map_eq_error {α β : Type} {r : Except Failure α} {f : α → β} {e : Failure}
    (h : r.map f = .error e) : r = .error e := by
  cases r with
  | error e' => exact congrArg Except.error (Except.error.inj h)
  | ok x => cases h

theorem isOk_map {α β : Type} (r : Except Failure α) (f : α → β) : (r.map f).isOk = r.isOk := by
  cases r <;> rfl

/-- A result in two steps comes from a result of the first. -/
theorem of_bind_eq_ok {α β : Type} {r : Except Failure α} {f : α → Except Failure β} {y : β}
    (h : r >>= f = .ok y) : ∃ x, r = .ok x ∧ f x = .ok y := by
  cases r with
  | error e => cases h
  | ok x => exact ⟨x, rfl, h⟩

/-! ## What attempts give and leave -/

/-- A failure ends a computation on a state; else the rest goes on from the state that the
first part leaves. -/
theorem run_bind {σ α β : Type} (a : ExceptT Failure (StateM σ) α)
    (f : α → ExceptT Failure (StateM σ) β) (s : σ) :
    (a >>= f).run s =
      match a.run s with
      | (.ok x, t) => (f x).run t
      | (.error e, t) => (.error e, t) := by
  rw [ExceptT.run_bind]
  rcases h : a.run s with ⟨r, t⟩
  simp only [StateT.bind, bind, h]
  cases r with
  | ok x => rfl
  | error e => rfl

namespace Attempt

variable {σ τ α β : Type}

/-- What an attempt gives on a session. -/
def outcome (a : Attempt σ α) (s : Session σ) : Except Failure α :=
  (a.run s).1

/-- The session that an attempt leaves, also when it fails. -/
def after (a : Attempt σ α) (s : Session σ) : Session σ :=
  (a.run s).2

@[simp] theorem outcome_pure (x : α) (s : Session σ) : outcome (pure x) s = .ok x := rfl

@[simp] theorem after_pure (x : α) (s : Session σ) : after (pure x) s = s := rfl

theorem outcome_bind (a : Attempt σ α) (f : α → Attempt σ β) (s : Session σ) :
    outcome (a >>= f) s =
      match outcome a s with
      | .ok x => outcome (f x) (after a s)
      | .error e => .error e := by
  simp only [outcome, after, run_bind]
  rcases a.run s with ⟨r, t⟩
  cases r <;> rfl

theorem after_bind (a : Attempt σ α) (f : α → Attempt σ β) (s : Session σ) :
    after (a >>= f) s =
      match outcome a s with
      | .ok x => after (f x) (after a s)
      | .error _ => after a s := by
  simp only [outcome, after, run_bind]
  rcases a.run s with ⟨r, t⟩
  cases r <;> rfl

/-- An attempt in two parts succeeds only if both do, and leaves what the second part leaves. -/
theorem bind_eq_ok {a : Attempt σ α} {f : α → Attempt σ β} {s : Session σ} {y : β}
    (h : outcome (a >>= f) s = .ok y) :
    ∃ x, outcome a s = .ok x ∧ outcome (f x) (after a s) = .ok y ∧
      after (a >>= f) s = after (f x) (after a s) := by
  rw [outcome_bind] at h
  rw [after_bind]
  cases ha : outcome a s with
  | error e =>
    rw [ha] at h
    cases h
  | ok x =>
    rw [ha] at h
    exact ⟨x, rfl, h, rfl⟩

/-- What is done with a result, and not with the state, shows in the result alone. -/
theorem outcome_bind_pure (a : Attempt σ α) (f : α → β) (s : Session σ) :
    outcome (a >>= fun x => pure (f x)) s = (outcome a s).map f := by
  rw [outcome_bind]
  cases outcome a s <;> rfl

theorem after_bind_pure (a : Attempt σ α) (f : α → β) (s : Session σ) :
    after (a >>= fun x => pure (f x)) s = after a s := by
  rw [after_bind]
  cases outcome a s <;> rfl

@[simp] theorem outcome_ofExcept (r : Except Failure α) (s : Session σ) :
    outcome (ofExcept r) s = r := rfl

@[simp] theorem after_ofExcept (r : Except Failure α) (s : Session σ) :
    after (ofExcept r) s = s := rfl

@[simp] theorem outcome_state (s : Session σ) : outcome state s = .ok s.state := rfl

@[simp] theorem after_state (s : Session σ) : after state s = s := rfl

@[simp] theorem outcome_change (f : σ → σ) (s : Session σ) : outcome (change f) s = .ok () := rfl

@[simp] theorem after_change (f : σ → σ) (s : Session σ) :
    after (change f) s = { s with state := f s.state } := rfl

@[simp] theorem outcome_event (e : Event) (s : Session σ) : outcome (event e) s = .ok () := rfl

@[simp] theorem after_event (e : Event) (s : Session σ) :
    after (event e) s = { s with events := s.events ++ [e] } := rfl

@[simp] theorem outcome_notice (n : Notice) (s : Session σ) : outcome (notice n) s = .ok () := rfl

@[simp] theorem after_notice (n : Notice) (s : Session σ) :
    after (notice n) s = { s with events := s.events ++ [.noted n] } := rfl

@[simp] theorem outcome_zoom (part : σ → τ) (put : τ → σ → σ) (a : Attempt τ α) (s : Session σ) :
    outcome (zoom part put a) s = outcome a ⟨part s.state, s.events⟩ := rfl

/-! ## What attempts keep -/

/-- Where the attempt finds a property of the state, it leaves it, also when it fails. -/
def Keeps (P : σ → Prop) (a : Attempt σ α) : Prop :=
  ∀ s : Session σ, P s.state → P (after a s).state

section Keeps

variable {P : σ → Prop}

theorem keeps_pure (x : α) : Keeps P (pure x) := fun _ h => h

theorem keeps_ofExcept (r : Except Failure α) : Keeps P (ofExcept r) := fun _ h => h

theorem keeps_event (e : Event) : Keeps P (event e) := fun _ h => h

theorem keeps_notice (n : Notice) : Keeps P (notice n) := fun _ h => h

theorem keeps_change {f : σ → σ} (h : ∀ c, P c → P (f c)) : Keeps P (change f) :=
  fun _ => h _

/-- The second part finds what the first one leaves, if it gets that far. -/
theorem keeps_bind {a : Attempt σ α} {f : α → Attempt σ β} (ha : Keeps P a)
    (hf : ∀ x, Keeps P (f x)) : Keeps P (a >>= f) := by
  intro s hs
  rw [after_bind]
  cases outcome a s with
  | error e => exact ha s hs
  | ok x => exact hf x _ (ha s hs)

/-- What is done with the state may count on its property. -/
theorem keeps_state_bind {f : σ → Attempt σ β} (h : ∀ c, P c → Keeps P (f c)) :
    Keeps P (state >>= f) :=
  fun s hs => h s.state hs s hs

/-- What is done with a result may count on its being one. -/
theorem keeps_ofExcept_bind {r : Except Failure α} {f : α → Attempt σ β}
    (h : ∀ x, r = .ok x → Keeps P (f x)) : Keeps P (ofExcept r >>= f) := by
  intro _ hs
  rw [after_bind, outcome_ofExcept, after_ofExcept]
  cases hr : r with
  | error e => exact hs
  | ok x => exact h x hr _ hs

/-- An attempt on a part of the state keeps what it keeps of the part. -/
theorem keeps_zoom {Q : τ → Prop} {part : σ → τ} {put : τ → σ → σ} {a : Attempt τ α}
    (ha : Keeps Q a) (hpart : ∀ c, P c → Q (part c))
    (hput : ∀ c t, P c → Q t → P (put t c)) : Keeps P (zoom part put a) :=
  fun _ hs => hput _ _ hs (ha _ (hpart _ hs))

end Keeps

/-! ## What attempts add nothing to -/

/-- The attempt adds nothing to what `f` reads off the events, also when it fails. -/
def Silent (f : Event → Option β) (a : Attempt σ α) : Prop :=
  ∀ s : Session σ, (after a s).events.filterMap f = s.events.filterMap f

section Silent

variable {γ : Type} {f : Event → Option γ}

theorem silent_pure (x : α) : Silent f (pure x : Attempt σ α) := fun _ => rfl

theorem silent_ofExcept (r : Except Failure α) : Silent f (ofExcept r : Attempt σ α) := fun _ => rfl

theorem silent_state : Silent f (state : Attempt σ σ) := fun _ => rfl

theorem silent_change (g : σ → σ) : Silent f (change g) := fun _ => rfl

theorem silent_event {e : Event} (h : f e = none) : Silent f (event e : Attempt σ Unit) := by
  intro s
  rw [after_event, List.filterMap_append, List.filterMap_cons_none h, List.filterMap_nil,
    List.append_nil]

theorem silent_notice {n : Notice} (h : f (.noted n) = none) :
    Silent f (notice n : Attempt σ Unit) :=
  silent_event h

theorem silent_bind {a : Attempt σ α} {g : α → Attempt σ β} (ha : Silent f a)
    (hg : ∀ x, Silent f (g x)) : Silent f (a >>= g) := by
  intro s
  rw [after_bind]
  cases outcome a s with
  | error e => exact ha s
  | ok x => exact (hg x _).trans (ha s)

theorem silent_zoom {part : σ → τ} {put : τ → σ → σ} {a : Attempt τ α} (h : Silent f a) :
    Silent f (zoom part put a) :=
  fun s => h ⟨part s.state, s.events⟩

end Silent

end Attempt

/-! ## What the compiler was given -/

/-- The pattern that was given to the compiler, if the event is that. -/
def Event.pattern? : Event → Option (List Char)
  | .compiled pattern => some pattern
  | _ => none

/-- The patterns that were given to the compiler, the first one first. -/
def Session.compiled {σ : Type} (s : Session σ) : List (List Char) :=
  s.events.filterMap Event.pattern?

namespace Attempt

variable {σ : Type}

@[simp] theorem compiled_after_compiled (pattern : List Char) (s : Session σ) :
    (after (event (.compiled pattern)) s).compiled = s.compiled ++ [pattern] := by
  simp [Session.compiled, Event.pattern?]

@[simp] theorem compiled_after_notice (n : Notice) (s : Session σ) :
    (after (notice n) s).compiled = s.compiled := by
  simp [Session.compiled, Event.pattern?]

@[simp] theorem compiled_after_change (f : σ → σ) (s : Session σ) :
    (after (change f) s).compiled = s.compiled := rfl

end Attempt

end ClockFace
