import FanBoard.Log
import FanBoard.Settings.Basic
import FanBoard.Timetable.Task

/-!
# The timetable

The timetable says when a task runs and a `Runner` says what it does.  In every tick the slots are
visited in order, and each slot whose task is due runs it once.  A task sees what the tasks before
it in the same tick did.

The time since a task ran counts from the tick in which it ran, not from the moment when it was due.
A late tick therefore moves all later runs back.
-/

namespace FanBoard

/-- When a task is due. -/
inductive Cadence where
  /-- When at least `ms` milliseconds have passed since it ran. -/
  | every (ms : UInt32)
  /-- When it has work, and as with `every`. -/
  | pendingOrEvery (ms : UInt32)
  /-- In every tick. -/
  | everyTick
deriving Repr, DecidableEq

/-- The cadence as the log shows it. -/
def Cadence.describe : Cadence → String
  | .every ms => "Every(" ++ toString ms.toNat ++ ")"
  | .pendingOrEvery ms => "PendingOrEvery(" ++ toString ms.toNat ++ ")"
  | .everyTick => "EveryIteration"

/-- A place in the timetable. -/
structure Slot where
  task : Task
  cadence : Cadence
  /-- The tick in which the task last ran, if it ran. -/
  lastRun : Option Nat := none
  /-- How often it ran. -/
  runs : Nat := 0
deriving Repr, DecidableEq

/-- Who runs the tasks, over a state `ρ`. -/
structure Runner (ρ : Type) where
  /-- Runs a task to its end. -/
  run : Task → Tick → ρ → ρ
  /-- Whether a task has work. -/
  pending : Task → ρ → Bool
  /-- Takes a line of the timetable for the log. -/
  note : Log.Line → ρ → ρ

namespace Slot

/-- Whether at least `ms` milliseconds have passed since the task ran, or it never ran. -/
def elapsed (s : Slot) (now : Nat) (ms : UInt32) : Bool :=
  match s.lastRun with
  | none => true
  | some last => ms.toNat * 1000 ≤ now - last

/-- Whether the task is due. -/
def isDue {ρ : Type} (s : Slot) (runner : Runner ρ) (now : Nat) (r : ρ) : Bool :=
  match s.cadence with
  | .every ms => s.elapsed now ms
  | .pendingOrEvery ms => runner.pending s.task r || s.elapsed now ms
  | .everyTick => true

/-- Runs the task if it is due. -/
def visit {ρ : Type} (s : Slot) (runner : Runner ρ) (tick : Tick) (r : ρ) : Slot × ρ :=
  if s.isDue runner tick.now r then
    ({ s with lastRun := some tick.now, runs := s.runs + 1 }, runner.run s.task tick r)
  else (s, r)

end Slot

/-- The slots in order and the ticks so far. -/
structure Timetable where
  slots : List Slot := []
  /-- The time of the last tick, if there was one. -/
  lastTick : Option Nat := none
  /-- The longest time between two ticks. -/
  maxLoop : Nat := 0
  /-- The number of ticks. -/
  iterations : Nat := 0
deriving Repr, DecidableEq

namespace Timetable

/-- The greatest number of slots. -/
def capacity : Nat := 12

/-- Adds a slot at the end and gives its place, unless the timetable is full. -/
def add (t : Timetable) (task : Task) (cadence : Cadence) : Outcome Timetable (Option Nat) :=
  if t.slots.length < capacity then
    { value := some t.slots.length
      state := { t with slots := t.slots ++ [{ task, cadence }] }
      log :=
        [Log.Origin.scheduler.line .debug
          ("Scheduler: added " ++ task.name ++ " (" ++ cadence.describe ++ ") at slot "
            ++ toString t.slots.length)] }
  else { value := none, state := t }

/-- Adds slots one after the other and gives their places. -/
def addAll (t : Timetable) : List (Task × Cadence) → Outcome Timetable (List (Option Nat))
  | [] => { value := [], state := t }
  | (task, cadence) :: rest =>
    let first := t.add task cadence
    let others := first.state.addAll rest
    { value := first.value :: others.value
      state := others.state
      log := first.log ++ others.log }

/-- The tasks of the board with their cadences, in order. -/
def standardPlan (i : Intervals) : List (Task × Cadence) :=
  [ (.networkPoll, .every i.networkPoll),
    (.statusLed, .every i.statusLed),
    (.display, .every i.display),
    (.inputDuty, .every i.inputDuty),
    (.temperature, .every i.temperature),
    (.inputTach, .every i.inputTach),
    (.outputUpdate, .pendingOrEvery i.outputUpdate),
    (.console, .everyTick),
    (.watchdog, .everyTick) ]

/-- The timetable of the board. -/
def standard (i : Intervals) : Outcome Timetable (List (Option Nat)) :=
  addAll {} (standardPlan i)

/-- Visits slots in order. -/
def visitAll {ρ : Type} (runner : Runner ρ) (tick : Tick) : List Slot → ρ → List Slot × ρ
  | [], r => ([], r)
  | s :: rest, r =>
    let (s, r) := s.visit runner tick r
    let (rest, r) := visitAll runner tick rest r
    (s :: rest, r)

/-- The time since the last tick. -/
def sinceLast (t : Timetable) (now : Nat) : Nat :=
  match t.lastTick with
  | none => 0
  | some last => now - last

/-- The timetable with a tick at `now` counted. -/
def count (t : Timetable) (now : Nat) : Timetable :=
  { t with
    lastTick := some now
    maxLoop := max t.maxLoop (t.sinceLast now)
    iterations := t.iterations + 1 }

/-- What the tasks of the last tick are told. -/
def current (t : Timetable) (now : Nat) : Tick :=
  { now, iteration := t.iterations, maxLoop := t.maxLoop }

/-- The line that a new longest time between two ticks logs. -/
def maxLoopLine (us : Nat) : Log.Line :=
  Log.Origin.scheduler.line .debug ("core0: max_loop_time=" ++ toString us)

def tick {ρ : Type} (t : Timetable) (runner : Runner ρ) (now : Nat) (r : ρ) : Timetable × ρ :=
  let counted := t.count now
  let r := if t.maxLoop < counted.maxLoop then runner.note (maxLoopLine counted.maxLoop) r else r
  let (slots, r) := visitAll runner (counted.current now) counted.slots r
  ({ counted with slots }, r)

/-- Ticks at the given times. -/
def ticks {ρ : Type} (t : Timetable) (runner : Runner ρ) (times : List Nat) (r : ρ) :
    Timetable × ρ :=
  times.foldl (fun (t, r) now => t.tick runner now r) (t, r)

/-- The main loop for as long as the clock gives times. -/
def run {ρ : Type} (t : Timetable) (runner : Runner ρ) (times : List Nat) (r : ρ) :
    Timetable × ρ :=
  let line := Log.Origin.scheduler.line .info
    ("Scheduler: entering main loop (" ++ toString t.slots.length ++ " tasks)")
  t.ticks runner times (runner.note line r)

/-- How often the first slot of a task ran. -/
def runsOf (t : Timetable) (task : Task) : Nat :=
  match t.slots.find? fun s => s.task == task with
  | some s => s.runs
  | none => 0

/-- The tasks in the order of their slots. -/
def order (t : Timetable) : List Task :=
  t.slots.map Slot.task

end Timetable

end FanBoard
