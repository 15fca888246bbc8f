import ClockFace.Run.Notice

/-! # Attempts

A step of a running clock changes a state, may fail, and asks things of its surroundings. What it
has changed and asked before it fails stays: an attempt is a computation on a `Session`, the state
together with the events so far.

`Attempt.zoom` runs an attempt on a part of the state. -/

namespace ClockFace

/-- What a clock asks of its surroundings. -/
inductive Event where
  /-- A pattern was given to the compiler. -/
  | compiled (pattern : List Char)
  /-- The clock source was asked for the time in a zone, or in the local zone. -/
  | askedTime (zone : Option Zone)
  /-- The date writer was asked for a pattern and a locale. -/
  | askedDate (pattern locale : String)
  | noted (notice : Notice)
  deriving DecidableEq, Repr

/-- A state and the events so far, the first one first. -/
structure Session (σ : Type) where
  state : σ
  events : List Event
  deriving Repr

/-- A computation that changes a state, notes events and may fail; a failure takes nothing back. -/
abbrev Attempt (σ α : Type) := ExceptT Failure (StateM (Session σ)) α

namespace Attempt

variable {σ τ α : Type}

/-- Go on with a result, or fail with a failure. -/
def ofExcept (r : Except Failure α) : Attempt σ α :=
  ExceptT.mk (pure r)

/-- The state. -/
def state : Attempt σ σ :=
  return (← get).state

/-- Change the state. -/
def change (f : σ → σ) : Attempt σ Unit :=
  modify fun s => { s with state := f s.state }

/-- Note an event. -/
def event (e : Event) : Attempt σ Unit :=
  modify fun s => { s with events := s.events ++ [e] }

/-- Note a notice. -/
def notice (n : Notice) : Attempt σ Unit :=
  event (.noted n)

/-- Run an attempt on a part of the state. -/
def zoom (part : σ → τ) (put : τ → σ → σ) (a : Attempt τ α) : Attempt σ α :=
  ExceptT.mk fun s =>
    let (r, t) := a.run ⟨part s.state, s.events⟩
    (r, ⟨put t.state s.state, t.events⟩)

end Attempt

end ClockFace
