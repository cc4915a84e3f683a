/-!
# Settings

`Settings` is read once and does not change while the board runs.  `Settings.check` says whether
the board can run with it, and if not, the first `Defect` in a fixed order.
-/

namespace FanBoard

/-! ## The status light -/

/-- What the status light does. -/
inductive LedMode where
  /-- It changes in every period. -/
  | slowBlink
  | alwaysOn
  | alwaysOff
deriving Repr, DecidableEq

namespace LedMode

/-- The mode that a number stands for.  Unknown numbers stand for darkness. -/
def ofCode : Nat → LedMode
  | 0 => .slowBlink
  | 1 => .alwaysOn
  | _ => .alwaysOff

/-- The number that stands for a mode. -/
def code : LedMode → Nat
  | .slowBlink => 0
  | .alwaysOn => 1
  | .alwaysOff => 2

def name : LedMode → String
  | .slowBlink => "SlowBlink"
  | .alwaysOn => "AlwaysOn"
  | .alwaysOff => "AlwaysOff"

/-- Whether the light is on after one more period. -/
def next : LedMode → Bool → Bool
  | .slowBlink, on => !on
  | .alwaysOn, _ => true
  | .alwaysOff, _ => false

end LedMode

/-! ## The settings -/

/-- The least change that counts, for each kind of signal. -/
structure Thresholds where
  /-- The duty asked for on a header, in percent. -/
  inputDuty : Float32 := 0.5
  /-- The duty of a fan, in percent. -/
  outputDuty : Float32 := 0.1
  /-- The tach frequency of a fan, in hertz. -/
  inputTach : Float32 := 0.5
  /-- The tach frequency given to a header, in hertz. -/
  outputTach : Float32 := 0.1
  /-- A temperature, in degrees Celsius. -/
  temperature : Float32 := 0.5
deriving DecidableEq

/-- The thresholds in order. -/
def Thresholds.toList (t : Thresholds) : List Float32 :=
  [t.inputDuty, t.outputDuty, t.inputTach, t.outputTach, t.temperature]

/-- Whether every threshold is finite and not negative. -/
def Thresholds.areValid (t : Thresholds) : Bool :=
  t.toList.all fun x => x.isFinite && (0 : Float32) ≤ x

/-- The periods of the repeated tasks in milliseconds. -/
structure Intervals where
  networkPoll : UInt32 := 1
  statusLed : UInt32 := 1000
  display : UInt32 := 2000
  inputDuty : UInt32 := 1500
  temperature : UInt32 := 10000
  inputTach : UInt32 := 2000
  /-- The longest time between two output updates when no input changes. -/
  outputUpdate : UInt32 := 3000
deriving Repr, DecidableEq

/-- The periods in order. -/
def Intervals.toList (i : Intervals) : List UInt32 :=
  [i.networkPoll, i.statusLed, i.display, i.inputDuty, i.temperature, i.inputTach, i.outputUpdate]

/-- How the board is set up. -/
structure Settings where
  /-- Whether the terminal shows what is typed. -/
  localEcho : Bool := false
  /-- How long the start waits for a terminal, in milliseconds. -/
  consoleWait : UInt32 := 2500
  ledMode : LedMode := .slowBlink
  thresholds : Thresholds := {}
  intervals : Intervals := {}
  /-- The time over which tach pulses are counted, in milliseconds. -/
  tachWindow : UInt32 := 1000
  /-- The longest wait for the worker to park, in milliseconds. -/
  lockoutTimeout : UInt32 := 100
  /-- The longest time between two feeds of the watchdog, in milliseconds. -/
  watchdogTimeout : UInt32 := 8000
deriving DecidableEq

namespace Settings

/-- Why the board cannot run with some settings. -/
inductive Defect where
  | thresholds
  | intervals
  | tachWindow
  | watchdogTimeout
  | lockoutTimeout
deriving Repr, DecidableEq

/-- The reason given for a defect. -/
def Defect.message : Defect → String
  | .thresholds => "thresholds must be finite and non-negative"
  | .intervals => "task intervals must be non-zero"
  | .tachWindow => "tach_window_ms must be non-zero"
  | .watchdogTimeout => "watchdog_timeout_ms must be at least 1000"
  | .lockoutTimeout =>
    "lockout_timeout_ms must be non-zero and at most half the watchdog timeout"

/-- Twice a number, at most the greatest number of 32 bits. -/
def doubled (n : UInt32) : Nat :=
  min (2 * n.toNat) (UInt32.size - 1)

/-- The first defect of the settings, if there is one. -/
def defect? (s : Settings) : Option Defect :=
  if !s.thresholds.areValid then some .thresholds
  else if s.intervals.toList.contains 0 then some .intervals
  else if s.tachWindow = 0 then some .tachWindow
  else if s.watchdogTimeout < 1000 then some .watchdogTimeout
  else if s.lockoutTimeout = 0 ∨ s.watchdogTimeout.toNat < doubled s.lockoutTimeout then
    some .lockoutTimeout
  else none

/-- The settings themselves, unless they have a defect. -/
def check (s : Settings) : Except Defect Settings :=
  match s.defect? with
  | none => .ok s
  | some d => .error d

end Settings

end FanBoard
