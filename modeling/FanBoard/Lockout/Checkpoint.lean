import FanBoard.Lockout.Words

/-!
# The safe point of the worker

At its safe point the worker looks whether the lockout is requested, and if so waits until it is
not.  Every constructor of `Checkpoint` says which operation comes next, and `Checkpoint.step`
performs exactly one.

While it waits, the worker answers before it looks again.  A request that comes after its last look
is answered in the same wait.
-/

namespace FanBoard.Lockout

/-- Where the worker stands at its safe point. -/
inductive Checkpoint where
  /-- About to look at the request. -/
  | entering
  /-- About to note that it waits. -/
  | parking
  /-- About to read the number of the request. -/
  | reading
  /-- About to answer the request of this number. -/
  | answering (seq : UInt32)
  /-- About to look again. -/
  | looking
  /-- About to note that it no longer waits. -/
  | leaving
  /-- Past the safe point, with or without a wait. -/
  | passed (parked : Bool)
deriving Repr, DecidableEq

namespace Checkpoint

def step : Checkpoint → Words → Checkpoint × Words
  | .entering, w => (if w.requested then .parking else .passed false, w)
  | .parking, w => (.reading, { w with parked := true })
  | .reading, w => (.answering w.requestSeq, w)
  | .answering seq, w => (.looking, { w with parkAck := seq })
  | .looking, w => (if w.requested then .reading else .leaving, w)
  | .leaving, w => (.passed true, { w with parked := false })
  | .passed parked, w => (.passed parked, w)

/-- The first `n` steps with nothing between them. -/
def steps : Nat → Checkpoint → Words → Checkpoint × Words
  | 0, c, w => (c, w)
  | n + 1, c, w => let (c, w) := c.step w; steps n c w

/-- The worker goes to its safe point and, if the lockout is requested, answers. -/
def arrive (w : Words) : Words :=
  (steps 4 .entering w).2

/-- The worker looks again and, if the lockout is no longer requested, leaves its safe point. -/
def depart (w : Words) : Words :=
  (steps 2 .looking w).2

/-- The worker goes through its safe point.  Another core releases the lockout as soon as the worker
waits. -/
def through (w : Words) : Bool × Words :=
  if w.requested then (true, depart (arrive w).release) else (false, (steps 1 .entering w).2)

end Checkpoint

end FanBoard.Lockout
