import FanBoard.Board.Basic

/-!
# A board on the bench

A `ProbeBoard` stands in for the hardware while the controller is tried out.  Its inputs are set by
hand, any of its outputs can be made to fail, and it keeps every output that was driven, in order.
-/

namespace FanBoard

/-- An output that was driven. -/
inductive Drive where
  | fan (channel : Nat) (percent : Float32)
  | header (channel : Nat) (hz : Float32)
  | led (on : Bool)
deriving DecidableEq

/-- A board whose inputs are set by hand. -/
structure ProbeBoard where
  /-- The sample that each header gives. -/
  duties : Vector (Except SensorFault Float32) headerCount := Vector.replicate _ (.ok 0)
  /-- The sample that each sensor gives. -/
  temperatures : Vector (Except SensorFault Float32) sensorCount := Vector.replicate _ (.ok 0)
  /-- The fans that take no duty. -/
  deadFans : List Nat := []
  /-- The headers that take no frequency. -/
  deadHeaders : List Nat := []
  /-- The bytes that wait for the terminal. -/
  received : List UInt8 := []
  /-- The outputs that were driven. -/
  drives : Array Drive := #[]
  /-- The bytes sent to the terminal. -/
  sent : Array UInt8 := #[]
  /-- How often the display was drawn. -/
  displays : Nat := 0
  /-- How often the network was served. -/
  networkPolls : Nat := 0
  /-- How often the watchdog was fed. -/
  feeds : Nat := 0

namespace ProbeBoard

/-- An operation that gives nothing and logs nothing. -/
def silently (p : ProbeBoard) : Outcome ProbeBoard Unit where
  value := ()
  state := p

/-- Keeps an output. -/
def record (p : ProbeBoard) (d : Drive) : ProbeBoard :=
  { p with drives := p.drives.push d }

/-- Keeps an output, unless it is dead. -/
def driveUnless (p : ProbeBoard) (dead : Bool) (f : ActuatorFault) (d : Drive) :
    Outcome ProbeBoard (Except ActuatorFault Unit) :=
  if dead then { value := .error f, state := p } else { value := .ok (), state := p.record d }

/-- The sample of a sensor. -/
def temperature (p : ProbeBoard) (index : Nat) : Except SensorFault Float32 :=
  if h : index < sensorCount then p.temperatures[index] else .error .invalidChannel

/-- The next byte that waits. -/
def readByte (p : ProbeBoard) : Option UInt8 × ProbeBoard :=
  match p.received with
  | [] => (none, p)
  | b :: received => (some b, { p with received })

/-- The operations on a board on the bench. -/
def board : Board ProbeBoard where
  readTemperature index p := { value := p.temperature index, state := p }
  sampleDuties p := { value := p.duties, state := p }
  setFanDuty channel percent p :=
    p.driveUnless (p.deadFans.contains channel) .pwmWriteFailed (.fan channel percent)
  setHeaderTach channel hz p :=
    p.driveUnless (p.deadHeaders.contains channel) .frequencyWriteFailed (.header channel hz)
  setLed on p := (p.record (.led on)).silently
  refreshDisplay _ _ p := { p with displays := p.displays + 1 }.silently
  pollNetwork p := { p with networkPolls := p.networkPolls + 1 }.silently
  readByte p :=
    let (value, state) := p.readByte
    { value, state }
  write bytes p := { p with sent := p.sent ++ bytes.toArray }.silently
  feedWatchdog p := { p with feeds := p.feeds + 1 }.silently

end ProbeBoard

end FanBoard
