/-!
# The deadband

A reading jitters around its true value.  It counts as a change only when it differs from the value
last acted on by at least a threshold.  The threshold itself counts as a change.
-/

namespace FanBoard.Deadband

/-- Whether `next` differs from `prev` by at least `threshold`. -/
def changed (prev next threshold : Float32) : Bool :=
  threshold ≤ (next - prev).abs

/-- Holds `next` against the value in `slot`.  A change goes into the slot, and the value that it
replaced is given beside the slot. -/
def apply (slot next threshold : Float32) : Float32 × Option Float32 :=
  if changed slot next threshold then (next, some slot) else (slot, none)

end FanBoard.Deadband
