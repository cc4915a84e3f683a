/-!
# The shared words of the lockout

The lockout lets one core hold the worker of the other core at a safe point.  The two cores share a
few words.  Every operation on them is atomic, and all operations happen in one order.
-/

namespace FanBoard.Lockout

/-- The words that the cores share. -/
structure Words where
  /-- Somebody holds the lockout or is waiting for it. -/
  requested : Bool := false
  /-- The number of the last request, in 32 bits. -/
  requestSeq : UInt32 := 0
  /-- The number of the request that the worker last answered. -/
  parkAck : UInt32 := 0
  /-- The worker waits at its safe point. -/
  parked : Bool := false
  /-- There is a worker that can be parked. -/
  victim : Bool := false
  /-- The number of requests that were granted, in 32 bits. -/
  rounds : UInt32 := 0
deriving Repr, DecidableEq

/-- Notes that there is a worker. -/
def Words.registerVictim (w : Words) : Words :=
  { w with victim := true }

/-- Lets the worker go on. -/
def Words.release (w : Words) : Words :=
  { w with requested := false }

end FanBoard.Lockout
