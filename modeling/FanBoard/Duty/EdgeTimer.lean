import FanBoard.Number.Single
import FanBoard.Signals

/-!
# Timing the edges of a header

The host asks for a duty by a square wave on each header.  Every edge is recorded with its time in
32-bit microseconds, and differences of times wrap.  The time between the last two rising edges is
the period, and the time from the last rising to the last falling edge is the high time.
-/

namespace FanBoard

/-- What is known of one header. -/
structure EdgeChannel where
  /-- The time of the last rising edge. -/
  lastRise : UInt32 := 0
  /-- The time between the last two rising edges, zero before there are two. -/
  period : UInt32 := 0
  /-- The time from the last rising to the last falling edge. -/
  high : UInt32 := 0
  /-- The level after the last edge. -/
  level : Bool := false
  /-- The number of edges. -/
  edges : UInt32 := 0
deriving Repr, DecidableEq

namespace EdgeChannel

def edge (c : EdgeChannel) (rising : Bool) (now : UInt32) : EdgeChannel :=
  if rising then
    { c with
      period := if 0 < c.edges then now - c.lastRise else c.period
      lastRise := now
      level := true
      edges := c.edges + 1 }
  else
    { c with high := now - c.lastRise, level := false, edges := c.edges + 1 }

/-- The duty in percent over the last period, if there was one. -/
def timedDuty (c : EdgeChannel) : Option Float32 :=
  if c.period = 0 then none
  else
    let ratio := Single.ofNat c.high.toNat * 100 / Single.ofNat c.period.toNat
    some (Single.clamp ratio 0 100)

/-- The duty in percent of a header without edges. -/
def levelDuty (c : EdgeChannel) : Float32 :=
  if c.level then 100 else 0

end EdgeChannel

/-- What is known of the headers. -/
structure EdgeTimer where
  channels : Vector EdgeChannel headerCount := Vector.replicate _ {}
deriving Repr, DecidableEq

namespace EdgeTimer

/-- Records an edge of a header.  An edge elsewhere is ignored. -/
def edge (t : EdgeTimer) (channel : Nat) (rising : Bool) (now : UInt32) : EdgeTimer :=
  if h : channel < headerCount then
    ⟨t.channels.set channel (t.channels[channel].edge rising now)⟩
  else t

/-- The number of edges of a header. -/
def edges (t : EdgeTimer) (channel : Nat) : UInt32 :=
  if h : channel < headerCount then t.channels[channel].edges else 0

/-- Records an edge at a time of 64 bits, of which the low 32 are kept. -/
def interrupt (t : EdgeTimer) (channel : Nat) (level : Bool) (now : Nat) : EdgeTimer :=
  t.edge channel level (UInt32.ofNat now)

/-- The period of a simulated signal in microseconds. -/
def simulatedPeriod : UInt32 := 40

/-- The high time of a simulated signal, rounded down to whole microseconds. -/
def simulatedHigh (percent : Float32) : UInt32 :=
  (40 * Single.clamp percent 0 100 / 100).toUInt32

/-- Records two periods of a signal with a duty of `percent`. -/
def inject (t : EdgeTimer) (channel : Nat) (percent : Float32) (start : UInt32) : EdgeTimer :=
  let high := simulatedHigh percent
  (((t.edge channel true start).edge channel false (start + high)).edge channel true
    (start + simulatedPeriod)).edge channel false (start + (simulatedPeriod + high))

end EdgeTimer

end FanBoard
