import FanBoard.Fault
import FanBoard.Log
import FanBoard.Settings.Basic
import FanBoard.Signals

/-!
# The board as the controller sees it

A `Board` says what each operation on the hardware does to a state `β` of the hardware, what it
gives, and what it logs.  The controller knows the hardware by these operations only.
-/

namespace FanBoard

/-- The operations on the hardware, over a state `β`. -/
structure Board (β : Type) where
  /-- The temperature of a sensor in degrees Celsius. -/
  readTemperature : Nat → β → Outcome β (Except SensorFault Float32)
  /-- The duty in percent asked for on each header.  Each fails by itself. -/
  sampleDuties : β → Outcome β (Vector (Except SensorFault Float32) headerCount)
  /-- Drives a fan at a duty in percent. -/
  setFanDuty : Nat → Float32 → β → Outcome β (Except ActuatorFault Unit)
  /-- Gives a header a tach frequency in hertz. -/
  setHeaderTach : Nat → Float32 → β → Outcome β (Except ActuatorFault Unit)
  /-- Turns the status light on or off. -/
  setLed : Bool → β → Outcome β Unit
  /-- Draws the display. -/
  refreshDisplay : Signals → Settings → β → Outcome β Unit
  /-- Serves the network. -/
  pollNetwork : β → Outcome β Unit
  /-- The next byte from the terminal, if one waits. -/
  readByte : β → Outcome β (Option UInt8)
  /-- Sends bytes to the terminal. -/
  write : List UInt8 → β → Outcome β Unit
  /-- Feeds the watchdog. -/
  feedWatchdog : β → Outcome β Unit

end FanBoard
