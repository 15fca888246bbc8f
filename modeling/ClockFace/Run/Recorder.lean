import ClockFace.Failure
import ClockFace.Run.Notice

/-! # Recording

Where log records go. A recorder has sinks, each with the least severity that it keeps, and it keeps
the clock's own records only once it is set up. `Recorder.setUp` replaces the sinks, and
`Recorder.host` and `Recorder.own` offer a record of the host or of the clock to all of them. -/

namespace ClockFace

/-- Where a sink writes to. -/
inductive Target where
  | console
  | file (name : String)
  deriving DecidableEq, Repr

/-- A sink keeps the records of at least a severity. -/
structure Sink where
  target : Target
  threshold : Int
  deriving DecidableEq, Repr

/-- The sinks, whether the clock's own records are kept, the log file named last, and what was
written to each target. A file exists once a sink was opened for it. -/
structure Recorder where
  sinks : List Sink
  enabled : Bool
  fileName : String
  written : List (Target × List Record)
  deriving Repr

/-- What a setup asks for. -/
structure RecorderOptions where
  file : Option String
  level : Value
  console : Bool
  toFile : Bool

namespace Recorder

/-- The recorder before it is set up. -/
def initial : Recorder :=
  ⟨[], false, "statusclock.log", []⟩

/-- The severity that a value stands for: the name of a level, or a number from zero. -/
def threshold (v : Value) : Except Failure Int :=
  match v with
  | .text s =>
    match Level.ofName? s with
    | some l => .ok l.severity
    | none => .error (.unknownLevel s)
  | .int n => if n < 0 then .error (.negativeLevel n) else .ok n
  | .bool b => .ok (if b then 1 else 0)
  | _ => .error (.levelShape v)

/-- The records written to a target. -/
def records (r : Recorder) (t : Target) : List Record :=
  (r.written.lookup t).getD []

/-- The target exists, with what was written to it before. -/
def opened (r : Recorder) (t : Target) : Recorder :=
  if r.written.any (·.1 == t) then r else { r with written := r.written ++ [(t, [])] }

/-- Add a sink. Its target is opened before the level is looked at. -/
def addSink (t : Target) (level : Value) : ExceptT Failure (StateM Recorder) Unit := do
  modify (·.opened t)
  let threshold ← ExceptT.mk (pure (threshold level))
  modify fun r => { r with sinks := r.sinks ++ [⟨t, threshold⟩] }

/-- Replace the sinks. A file name is remembered for later setups, whatever becomes of this one. -/
def setUp (options : RecorderOptions) : ExceptT Failure (StateM Recorder) Unit := do
  modify fun r => { r with
    fileName := options.file.getD r.fileName
    sinks := []
    enabled := true }
  -- The console comes first: a level that is refused there leaves the file unopened.
  if options.console then addSink .console options.level
  if options.toFile then addSink (.file (← get).fileName) options.level

/-- Write a record to the targets of the sinks that keep it. -/
def host (r : Recorder) (record : Record) : Recorder :=
  let kept := r.sinks.filter fun s => s.threshold ≤ (record.level.severity : Int)
  { r with written := r.written.map fun (t, records) =>
      if kept.any (·.target == t) then (t, records ++ [record]) else (t, records) }

/-- Write a record of the clock itself, if those are kept. -/
def own (r : Recorder) (record : Record) : Recorder :=
  if r.enabled then r.host record else r

end Recorder

end ClockFace
