import FanBoard.Bench.Rig
import FanBoard.Board.Hardware
import FanBoard.TachWorker

/-!
# The rig with a worker

A `WorkerRig` is the whole board: the controller on its hardware and the worker on its meter of tach
pulses.  Both are on one clock that is set by hand.  The worker does one step at a time, either by
itself or in answer to a request of the controller for the lockout.
-/

namespace FanBoard

/-- A rig of the hardware with a worker beside the controller. -/
structure WorkerRig where
  rig : Rig Hardware
  worker : TachWorker PulseMeter

namespace WorkerRig

/-- A rig at time zero.  The status light is on a given pin. -/
def start (pin : Pin) (settings : Settings) (journal : Journal) : WorkerRig :=
  let led := StatusLed.start pin
  let watchdog := Watchdog.arm settings.watchdogTimeout
  let wiring := { board := Hardware.board, curve := .transparent }
  let hardware := { led := led.state, watchdog := watchdog.state }
  let rig := Rig.start wiring hardware settings (journal.addAll (led.log ++ watchdog.log))
  { rig := rig.mapShared fun s => s.note (PulseMeter.openingLine settings.tachWindow)
    worker := { source := PulseMeter.ofMillis settings.tachWindow } }

def mapRig (w : WorkerRig) (f : Rig Hardware → Rig Hardware) : WorkerRig :=
  { w with rig := f w.rig }

def mapHardware (w : WorkerRig) (f : Hardware → Hardware) : WorkerRig :=
  w.mapRig fun r => r.mapBoard f

/-- Takes over what a step of the worker left. -/
def afterStep (w : WorkerRig) (worker : TachWorker PulseMeter) (shared : Shared) : WorkerRig :=
  { w with worker }.mapRig fun r => r.mapShared fun _ => shared

def startWorker (w : WorkerRig) (now : Nat) : WorkerRig :=
  let rig := w.rig.setClock now
  let (worker, shared) := w.worker.start PulseMeter.source rig.shared
  { w with rig }.afterStep worker shared

/-- Lets the worker do one step. -/
def stepWorker (w : WorkerRig) (now : Nat) : Option TachReading × WorkerRig :=
  let rig := w.rig.setClock now
  let (reading, worker, shared) := w.worker.step PulseMeter.source rig.shared
  (reading, { w with rig }.afterStep worker shared)

/-- Lets the worker leave its safe point, if it waits there, and finish its step. -/
def finishStep (w : WorkerRig) : WorkerRig :=
  let shared := w.rig.shared
  if shared.lockout.parked then
    let lockout := Lockout.Checkpoint.depart shared.lockout
    let (_, worker, shared) := w.worker.proceed PulseMeter.source true { shared with lockout }
    w.afterStep worker shared
  else w

/-- Lets the controller tick while the worker waits for a request of the lockout.  The worker
answers the request at its safe point and finishes its step after the tick. -/
def tickParked (w : WorkerRig) (now : Nat) : WorkerRig :=
  let wiring := { w.rig.wiring with peer := fun _ words => Lockout.Checkpoint.arrive words }
  let ticked := { w.rig with wiring }.tick now
  { w with rig := { ticked with wiring := w.rig.wiring } }.finishStep

end WorkerRig

end FanBoard
