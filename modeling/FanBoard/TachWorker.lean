import FanBoard.Lockout.Checkpoint
import FanBoard.Shared
import FanBoard.Tach.Meter
import FanBoard.Thread

/-!
# The tach worker

The worker runs on a core of its own.  In every step it goes through the safe point of the lockout,
reads the clock, polls its source of tach readings and publishes what the source gives.  After a
wait at the safe point it restarts the source first, because what was counted meanwhile belongs to
no window.
-/

namespace FanBoard

/-- Where tach readings come from, over a state `κ`. -/
structure TachSource (κ : Type) where
  /-- The reading that is complete at a time, if there is one. -/
  poll : Nat → κ → Option TachReading × κ
  /-- Starts anew at a time. -/
  restart : Nat → κ → κ
  /-- The lines that a restart logs. -/
  restartLog : List Log.Line := []

/-- A meter of tach pulses as a source. -/
def PulseMeter.source : TachSource PulseMeter where
  poll now m := m.poll now
  restart now m := m.restart now
  restartLog := [restartLine]

/-- The worker and its source. -/
structure TachWorker (κ : Type) where
  source : κ
  /-- The time of the last step, unless the worker was parked since. -/
  lastStep : Option Nat := none
  /-- When the worker last showed that it runs. -/
  lastSign : Option Nat := none
  /-- The longest time between two steps. -/
  maxLoop : Nat := 0
  /-- The number of steps. -/
  iterations : Nat := 0
  /-- The number of steps in which the worker was parked, in 32 bits. -/
  parks : UInt32 := 0
deriving DecidableEq

namespace TachWorker

variable {κ : Type}

/-- The time between two signs that the worker runs. -/
def signPeriod : Nat := 60000000

def line (level : Log.Level) (message : String) : Log.Line :=
  Log.Origin.capture.line level message

/-- Starts the source anew. -/
def restart (t : TachSource κ) (now : Nat) (w : TachWorker κ) (s : Shared) :
    TachWorker κ × Shared :=
  ({ w with source := t.restart now w.source }, s.notes t.restartLog)

/-- Notes a wait at the safe point. -/
def noteParked (t : TachSource κ) (now : Nat) (w : TachWorker κ) (s : Shared) :
    TachWorker κ × Shared :=
  restart t now { w with parks := w.parks + 1, lastStep := none } s

/-- Counts a step and measures the time since the last one. -/
def count (now : Nat) (w : TachWorker κ) (s : Shared) : TachWorker κ × Shared :=
  let delta := match w.lastStep with
    | none => 0
    | some last => now - last
  let counted :=
    { w with
      lastStep := some now
      maxLoop := max w.maxLoop delta
      iterations := w.iterations + 1 }
  (counted,
    if w.maxLoop < delta then
      s.note (line .debug ("core1: max_loop_time=" ++ toString delta))
    else s)

@[simp] theorem count_lockout (now : Nat) (w : TachWorker κ) (s : Shared) :
    (w.count now s).2.lockout = s.lockout := by
  simp only [count, apply_ite Shared.lockout, Shared.note_lockout, ite_self]

/-- Polls the source and publishes a reading. -/
def publish (t : TachSource κ) (now : Nat) (w : TachWorker κ) (s : Shared) :
    Option TachReading × TachWorker κ × Shared :=
  let (reading, source) := t.poll now w.source
  let slots := match reading with
    | some r => s.slots.publish r
    | none => s.slots
  (reading, { w with source }, { s with slots })

/-- Shows from time to time that the worker runs. -/
def sign (now : Nat) (w : TachWorker κ) (s : Shared) : TachWorker κ × Shared :=
  match w.lastSign with
  | none => ({ w with lastSign := some now }, s)
  | some last =>
    if signPeriod ≤ now - last then
      ({ w with lastSign := some now }, s.note (line .debug "core1: tick"))
    else (w, s)

@[simp] theorem sign_lockout (now : Nat) (w : TachWorker κ) (s : Shared) :
    (w.sign now s).2.lockout = s.lockout := by
  unfold sign
  split
  · rfl
  · split <;> rfl

/-- The rest of a step after the safe point.  `parked` says whether the worker waited there. -/
def proceed (t : TachSource κ) (parked : Bool) (w : TachWorker κ) (s : Shared) :
    Option TachReading × TachWorker κ × Shared :=
  let (now, clock) := s.clock.read
  let s := { s with clock }
  let (w, s) := if parked then w.noteParked t now s else (w, s)
  let (w, s) := w.count now s
  let (reading, w, s) := w.publish t now s
  let (w, s) := w.sign now s
  (reading, w, { s with slots := s.slots.recordWorker w.iterations w.maxLoop })

/-- One step.  If the lockout is requested, its holder releases it as soon as the worker waits. -/
def step (t : TachSource κ) (w : TachWorker κ) (s : Shared) :
    Option TachReading × TachWorker κ × Shared :=
  let (parked, lockout) := Lockout.Checkpoint.through s.lockout
  w.proceed t parked { s with lockout }

/-- Makes the worker known to the lockout. -/
def register (s : Shared) : Shared :=
  (s.note (line .info "core1: started...")).registerWorker

@[simp] theorem register_slots (s : Shared) : (register s).slots = s.slots := rfl

/-- Makes the worker known and starts its source. -/
def start (t : TachSource κ) (w : TachWorker κ) (s : Shared) : TachWorker κ × Shared :=
  let s := register s
  let (now, clock) := s.clock.read
  w.restart t now { s with clock }

/-- Lets the worker run for as long as the clock gives times: `readings` of them. -/
def run (t : TachSource κ) (readings : Nat) (w : TachWorker κ) (s : Shared) :
    TachWorker κ × Shared :=
  match readings with
  | 0 => (w, register s)
  | steps + 1 =>
    steps.fold (fun _ _ (w, s) => (w.step t s).2) (w.start t s)

/-- Starts the worker on its core and lets it run. -/
def spawn (t : TachSource κ) (readings : Nat) (w : TachWorker κ) (s : Shared) :
    TachWorker κ × Shared :=
  let thread : Thread := { core := .second, stackKb := 8, name := "capture\x00" }
  w.run t readings (s.note thread.startLine)

end TachWorker

end FanBoard
