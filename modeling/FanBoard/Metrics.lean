import FanBoard.Json.Printer
import FanBoard.Tach.Slots
import FanBoard.Timetable.Task

/-!
# Figures of the running board

`LoopMetrics` follows the ticks of the controller and counts its successes and failures.  Together
with the figures of the worker it gives a `Report`.
-/

namespace FanBoard

/-- The figures of the controller. -/
structure LoopMetrics where
  /-- The time of the first tick seen. -/
  boot : Option Nat := none
  /-- The time of the last tick seen. -/
  now : Nat := 0
  /-- The number of the last tick seen. -/
  iterations : Nat := 0
  /-- The longest time between two ticks. -/
  maxLoop : Nat := 0
  sensorErrors : UInt32 := 0
  actuatorErrors : UInt32 := 0
  outputWrites : UInt32 := 0
deriving Repr, DecidableEq

/-- All figures at one moment. -/
structure Report where
  uptime : Nat
  iterations : Nat
  maxLoop : Nat
  workerIterations : Nat
  workerMaxLoop : Nat
  tachSamples : Nat
  sensorErrors : Nat
  actuatorErrors : Nat
  outputWrites : Nat
  lockouts : Nat
  /-- The free memory in bytes, where it is known. -/
  heapFree : Option Nat
deriving Repr, DecidableEq

namespace LoopMetrics

/-- Follows a tick. -/
def observe (m : LoopMetrics) (t : Tick) : LoopMetrics :=
  { m with
    boot := some (m.boot.getD t.now)
    now := t.now
    iterations := t.iteration
    maxLoop := t.maxLoop }

/-- Whole seconds from the first tick to the last. -/
def uptime (m : LoopMetrics) : Nat :=
  (m.now - m.boot.getD 0) / 1000000

/-- Joins the figures of both cores.  The memory of the board is not known here. -/
def report (m : LoopMetrics) (slots : TachSlots) (lockouts : UInt32) : Report where
  uptime := m.uptime
  iterations := m.iterations
  maxLoop := m.maxLoop
  workerIterations := slots.workerIterations.toNat
  workerMaxLoop := slots.workerMaxLoop.toNat
  tachSamples := slots.total
  sensorErrors := m.sensorErrors.toNat
  actuatorErrors := m.actuatorErrors.toNat
  outputWrites := m.outputWrites.toNat
  lockouts := lockouts.toNat
  heapFree := none

end LoopMetrics

namespace Report

/-- The figures as a document. -/
def toJson (r : Report) : Json :=
  .ofMembers
    [ ("uptime_secs", .ofNat r.uptime),
      ("core0_iterations", .ofNat r.iterations),
      ("core0_max_loop_us", .ofNat r.maxLoop),
      ("core1_iterations", .ofNat r.workerIterations),
      ("core1_max_loop_us", .ofNat r.workerMaxLoop),
      ("tach_samples", .ofNat r.tachSamples),
      ("sensor_errors", .ofNat r.sensorErrors),
      ("actuator_errors", .ofNat r.actuatorErrors),
      ("output_writes", .ofNat r.outputWrites),
      ("lockouts", .ofNat r.lockouts),
      ("heap_free", match r.heapFree with
        | some bytes => .ofNat bytes
        | none => .null) ]

/-- The figures as one line for the terminal. -/
def line (r : Report) : String :=
  "uptime=" ++ toString r.uptime ++ "s"
    ++ ",core0_loops=" ++ toString r.iterations
    ++ ",core0_max_loop_us=" ++ toString r.maxLoop
    ++ ",core1_loops=" ++ toString r.workerIterations
    ++ ",core1_max_loop_us=" ++ toString r.workerMaxLoop
    ++ ",tach_samples=" ++ toString r.tachSamples
    ++ ",sensor_errors=" ++ toString r.sensorErrors
    ++ ",actuator_errors=" ++ toString r.actuatorErrors
    ++ ",output_writes=" ++ toString r.outputWrites
    ++ ",lockouts=" ++ toString r.lockouts
    ++ (match r.heapFree with
        | some bytes => ",heap_free=" ++ toString bytes
        | none => "")

end Report

end FanBoard
