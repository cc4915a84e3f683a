import FanBoard.TachWorker

/-!
# Tach readings from a script

A `TachScript` stands in for the meter of tach pulses while the worker is tried out.  It gives the
readings of a list, one at each poll, and counts how often it was restarted.
-/

namespace FanBoard

/-- The readings still to come, and the restarts so far. -/
structure TachScript where
  readings : List (Option TachReading) := []
  restarts : Nat := 0
deriving DecidableEq

namespace TachScript

def next (s : TachScript) : Option TachReading × TachScript :=
  match s.readings with
  | [] => (none, s)
  | r :: readings => (r, { s with readings })

/-- The script as a source. -/
def source : TachSource TachScript where
  poll _ s := s.next
  restart _ s := { s with restarts := s.restarts + 1 }

end TachScript

end FanBoard
