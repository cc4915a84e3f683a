import FanBoard.Board.Display
import FanBoard.Board.Basic
import FanBoard.Board.StatusLed
import FanBoard.Duty.Sampler
import FanBoard.Supervision.Watchdog
import FanBoard.Terminal.Serial
import FanBoard.Thermistor

/-!
# The hardware

The parts of the board that belong to the controller, and the operations on them.  Outputs are
brought into their range and recorded.
-/

namespace FanBoard

/-- The values last written to the outputs. -/
structure OutputLevels where
  fanDuty : Vector Float32 fanCount := Vector.replicate _ 0
  headerTach : Vector Float32 headerCount := Vector.replicate _ 0
  /-- The number of writes, in 32 bits. -/
  writes : UInt32 := 0
deriving DecidableEq

/-- The parts of the board. -/
structure Hardware where
  /-- The readings of the converter. -/
  converter : Vector UInt16 sensorCount := Vector.replicate _ Thermistor.midScale
  timer : EdgeTimer := {}
  sampler : DutySampler := {}
  led : StatusLed
  serial : Serial := {}
  /-- The bytes sent to the terminal. -/
  sent : Array UInt8 := #[]
  watchdog : Watchdog
  display : Display := {}
  /-- The number of times that the network was served, in 64 bits. -/
  networkPolls : UInt64 := 0
  outputs : OutputLevels := {}
deriving DecidableEq

namespace Hardware

/-- Drives a fan at a duty brought into the range from 0 to 100 percent. -/
def setFanDuty (channel : Nat) (percent : Float32) (h : Hardware) :
    Outcome Hardware (Except ActuatorFault Unit) :=
  if inRange : channel < fanCount then
    { value := .ok ()
      state :=
        { h with
          outputs :=
            { h.outputs with
              fanDuty := h.outputs.fanDuty.set channel (Single.clamp percent 0 100)
              writes := h.outputs.writes + 1 } } }
  else { value := .error .invalidChannel, state := h }

/-- Gives a header a tach frequency of at least zero hertz. -/
def setHeaderTach (channel : Nat) (hz : Float32) (h : Hardware) :
    Outcome Hardware (Except ActuatorFault Unit) :=
  if inRange : channel < headerCount then
    { value := .ok ()
      state :=
        { h with
          outputs :=
            { h.outputs with
              headerTach := h.outputs.headerTach.set channel (Single.floorAtZero hz)
              writes := h.outputs.writes + 1 } } }
  else { value := .error .invalidChannel, state := h }

/-- Drives fans at zero percent, up to the first that fails. -/
def stopFans : List Nat → Hardware → Outcome Hardware (Except ActuatorFault Unit)
  | [], h =>
    { value := .ok ()
      state := h
      log := [Log.Origin.hardware.line .info "hardware: all fan outputs at 0%"] }
  | channel :: rest, h =>
    let first := h.setFanDuty channel 0
    match first.value with
    | .ok () =>
      let others := stopFans rest first.state
      { others with log := first.log ++ others.log }
    | .error f => { first with value := .error f }

/-- Drives every fan at zero percent. -/
def zeroOutputs (h : Hardware) : Outcome Hardware (Except ActuatorFault Unit) :=
  stopFans (List.range fanCount) h

def readTemperature (index : Nat) (h : Hardware) : Except SensorFault Float32 :=
  (Thermistor.read h.converter index).map Prod.snd

/-- The duties asked for on the headers. -/
def sampleDuties (h : Hardware) :
    Outcome Hardware (Vector (Except SensorFault Float32) headerCount) :=
  let (value, sampler) := h.sampler.readAll h.timer
  { value, state := { h with sampler } }

/-- Sends bytes to the terminal. -/
def write (bytes : List UInt8) (h : Hardware) : Hardware :=
  { h with sent := h.sent ++ bytes.toArray }

/-- Turns the status light on or off. -/
def setLed (on : Bool) (h : Hardware) : Outcome Hardware Unit :=
  let led := h.led.set on
  { value := (), state := { h with led := led.state }, log := led.log }

def refreshDisplay (s : Signals) (settings : Settings) (h : Hardware) : Outcome Hardware Unit :=
  let display := h.display.refresh s settings
  { value := (), state := { h with display := display.state }, log := display.log }

/-- The hardware as a board. -/
def board : Board Hardware where
  readTemperature index h := { value := h.readTemperature index, state := h }
  sampleDuties h := h.sampleDuties
  setFanDuty channel percent h := h.setFanDuty channel percent
  setHeaderTach channel hz h := h.setHeaderTach channel hz
  setLed on h := h.setLed on
  refreshDisplay s settings h := h.refreshDisplay s settings
  pollNetwork h := { value := (), state := { h with networkPolls := h.networkPolls + 1 } }
  readByte h :=
    let (value, serial) := h.serial.readByte
    { value, state := { h with serial } }
  write bytes h := { value := (), state := h.write bytes }
  feedWatchdog h := { value := (), state := { h with watchdog := h.watchdog.feed } }

end Hardware

end FanBoard
