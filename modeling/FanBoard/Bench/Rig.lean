import FanBoard.Controller

/-!
# The rig

A `Rig` is a controller with its timetable on a clock that is set by hand.  The clock may also move
on by itself whenever it is read.

A rig can hold the lockout itself, so that the controller finds it taken, and it can register a
worker that never parks.
-/

namespace FanBoard

/-- A controller with its timetable. -/
structure Rig (β : Type) where
  controller : Controller β
  timetable : Timetable
  wiring : Wiring β
  /-- How far the clock moves on when it is read. -/
  stride : Nat := 0
  /-- Whether the rig holds the lockout. -/
  holding : Bool := false

namespace Rig

variable {β : Type}

/-- A rig at time zero with the standard timetable. -/
def start (wiring : Wiring β) (hardware : β) (settings : Settings) (journal : Journal) : Rig β :=
  let timetable := Timetable.standard settings.intervals
  let shared := { clock := Clock.stepping 0 0, journal : Shared }.notes timetable.log
  { controller := Controller.start hardware settings shared, timetable := timetable.state, wiring }

/-- What both cores see. -/
def shared (r : Rig β) : Shared :=
  r.controller.shared

/-- Changes what both cores see. -/
def mapShared (r : Rig β) (f : Shared → Shared) : Rig β :=
  { r with controller := { r.controller with shared := f r.controller.shared } }

/-- Changes the hardware. -/
def mapBoard (r : Rig β) (f : β → β) : Rig β :=
  { r with controller := { r.controller with board := f r.controller.board } }

/-- Takes over what an operation on the hardware left and logged. -/
def after {α : Type} (r : Rig β) (o : Outcome β α) : Rig β :=
  { r with controller := r.controller.after o }

/-- The same with no lines in the journal. -/
def cleared (r : Rig β) : Rig β :=
  r.mapShared Shared.cleared

def setClock (r : Rig β) (now : Nat) : Rig β :=
  r.mapShared fun s => { s with clock := Clock.stepping now r.stride }

/-- Sets how far the clock moves on when it is read. -/
def setStride (r : Rig β) (stride : Nat) : Rig β :=
  { r with stride }.setClock r.shared.clock.now

def setCurve (r : Rig β) (curve : Curve) : Rig β :=
  { r with wiring := { r.wiring with curve } }

/-- Publishes a tach frequency in place of the worker. -/
def publish (r : Rig β) (reading : TachReading) : Rig β :=
  r.mapShared fun s => { s with slots := s.slots.publish reading }

/-- Registers a worker that never parks. -/
def registerWorker (r : Rig β) : Rig β :=
  r.mapShared Shared.registerWorker

/-- Lets go of the lockout, if the rig holds it. -/
def release (r : Rig β) : Rig β :=
  if r.holding then
    { r with holding := false }.mapShared fun s => { s with lockout := s.lockout.release }
  else r

/-- Takes the lockout.  If that fails the rig holds nothing. -/
def hold (r : Rig β) : Rig β :=
  let (verdict, shared) := r.shared.acquire r.wiring.peer r.controller.settings.lockoutTimeout
  let r := r.mapShared fun _ => shared
  if verdict = .held then { r with holding := true } else r.release

/-- Sets the clock and lets the controller tick. -/
def tick (r : Rig β) (now : Nat) : Rig β :=
  let r := r.setClock now
  let (timetable, controller) :=
    r.timetable.tick (Controller.runner r.wiring) now r.controller
  { r with timetable, controller }

def runTask (r : Rig β) (task : Task) (tick : Tick) : Rig β :=
  { r with controller := r.controller.runTask r.wiring task tick }

/-- The tasks that have work. -/
def pendingTasks (r : Rig β) : List Task :=
  Task.all.filter fun task => Controller.pending task r.controller

end Rig

end FanBoard
