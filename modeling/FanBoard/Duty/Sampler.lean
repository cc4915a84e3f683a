import FanBoard.Duty.EdgeTimer
import FanBoard.Fault

/-!
# Sampling the duty of the headers

A header whose signal stands still has no edges, and its duty is all or nothing by its level.  The
sampler remembers the number of edges at the last sample to tell the two cases apart.
-/

namespace FanBoard

/-- The number of edges of each header at its last sample. -/
structure DutySampler where
  seen : Vector UInt32 headerCount := Vector.replicate _ 0
deriving Repr, DecidableEq

namespace DutySampler

/-- Samples a header of the timer. -/
def read (s : DutySampler) (t : EdgeTimer) (channel : Nat) :
    Except SensorFault Float32 × DutySampler :=
  if h : channel < headerCount then
    let c := t.channels[channel]
    let after : DutySampler := ⟨s.seen.set channel c.edges⟩
    if c.edges = s.seen[channel] then (.ok c.levelDuty, after)
    else
      match c.timedDuty with
      | some duty => (.ok duty, after)
      | none => (.error .noSignal, after)
  else (.error .invalidChannel, s)

/-- Samples both headers. -/
def readAll (s : DutySampler) (t : EdgeTimer) :
    Vector (Except SensorFault Float32) headerCount × DutySampler :=
  let (first, s) := s.read t 0
  let (second, s) := s.read t 1
  (#v[first, second], s)

end DutySampler

end FanBoard
