import FanBoard.Signals

/-!
# Published tach frequencies

The worker publishes the frequency of a fan in the slot of that fan, and the controller reads it
there.  Beside the frequencies stand the figures of the worker itself.  A channel that is no fan has
no slot: what is published there is lost and what is read there is zero.
-/

namespace FanBoard

/-- The slots that the worker writes and the controller reads. -/
structure TachSlots where
  /-- The frequency last published for each fan. -/
  hz : Vector Float32 fanCount := Vector.replicate _ 0
  /-- How often each fan was published, in 32 bits. -/
  published : Vector UInt32 fanCount := Vector.replicate _ 0
  /-- The longest time between two steps of the worker, at most the greatest 32-bit number. -/
  workerMaxLoop : UInt32 := 0
  /-- The number of steps of the worker, in 32 bits. -/
  workerIterations : UInt32 := 0
deriving DecidableEq

/-- A completed measurement of one fan. -/
structure TachReading where
  channel : Nat
  hz : Float32
deriving DecidableEq

namespace TachSlots

def publish (s : TachSlots) (r : TachReading) : TachSlots :=
  if h : r.channel < fanCount then
    { s with
      hz := s.hz.set r.channel r.hz
      published := s.published.set r.channel (s.published[r.channel] + 1) }
  else s

/-- The frequency of a channel. -/
def load (s : TachSlots) (channel : Nat) : Float32 :=
  if h : channel < fanCount then s.hz[channel] else 0

/-- How often a channel was published. -/
def count (s : TachSlots) (channel : Nat) : UInt32 :=
  if h : channel < fanCount then s.published[channel] else 0

/-- How often any channel was published. -/
def total (s : TachSlots) : Nat :=
  (s.published.toList.map UInt32.toNat).foldr (· + ·) 0

/-- Notes the figures of the worker. -/
def recordWorker (s : TachSlots) (iterations maxLoop : Nat) : TachSlots :=
  { s with
    workerIterations := UInt32.ofNat iterations
    workerMaxLoop := UInt32.ofNat (min maxLoop (UInt32.size - 1)) }

end TachSlots

end FanBoard
