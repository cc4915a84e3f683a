import FanBoard.TachWorker

/-!
# A worker on the bench

A `WorkerProbe` is a worker by itself, on a clock that is set by hand.  It can be parked in the
middle of a step, and it can be left to run for as long as a list of times lasts, after which it is
gone.
-/

namespace FanBoard

/-- A worker by itself. -/
structure WorkerProbe (κ : Type) where
  worker : TachWorker κ
  shared : Shared
  /-- Whether the worker ran to its end. -/
  gone : Bool := false

namespace WorkerProbe

variable {κ : Type}

/-- A worker that has not started, at time zero. -/
def ofSource (source : κ) (limit : Log.Limit) : WorkerProbe κ where
  worker := { source }
  shared := { clock := Clock.stepping 0 0, journal := { limit } }

def setClock (p : WorkerProbe κ) (now : Nat) : WorkerProbe κ :=
  { p with shared := { p.shared with clock := Clock.stepping now 0 } }

def start (t : TachSource κ) (now : Nat) (p : WorkerProbe κ) : WorkerProbe κ :=
  let p := p.setClock now
  let (worker, shared) := p.worker.start t p.shared
  { p with worker, shared }

/-- Lets the worker do one step. -/
def step (t : TachSource κ) (now : Nat) (p : WorkerProbe κ) : Option TachReading × WorkerProbe κ :=
  let p := p.setClock now
  let (reading, worker, shared) := p.worker.step t p.shared
  (reading, { p with worker, shared })

/-- Lets the worker do one step while another core asks for the lockout and releases it as soon as
the worker waits. -/
def stepParked (t : TachSource κ) (now : Nat) (timeout : UInt32) (p : WorkerProbe κ) :
    Option TachReading × WorkerProbe κ :=
  let p := p.setClock now
  let (_, shared) := p.shared.acquire (fun _ words => Lockout.Checkpoint.arrive words) timeout
  { p with shared }.step t now

/-- A clock that gives the times of a list. -/
def listedClock (times : List Nat) : Clock :=
  let listed := times.toArray
  { reading := fun n => listed.getD n 0 }

/-- Lets the worker run for as long as the times last. -/
def run (t : TachSource κ) (times : List Nat) (p : WorkerProbe κ) : WorkerProbe κ :=
  let shared := { p.shared with clock := listedClock times }
  let (worker, shared) := p.worker.run t times.length shared
  { worker, shared, gone := true }

/-- Starts the worker on its core and lets it run for as long as the times last. -/
def spawn (t : TachSource κ) (times : List Nat) (p : WorkerProbe κ) : WorkerProbe κ :=
  let shared := { p.shared with clock := listedClock times }
  let (worker, shared) := p.worker.spawn t times.length shared
  { worker, shared, gone := true }

end WorkerProbe

end FanBoard
