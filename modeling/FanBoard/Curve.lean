import FanBoard.Number.Single
import FanBoard.Signals

/-!
# Curves

A curve says, from the signals, at what duty each fan runs and what tach frequency each header is
given.  `Curve.transparent` makes the board transparent: every fan runs at the duty asked for on the
first header, and each header is given the tach frequency of the fan of the same number.
-/

namespace FanBoard

/-- The targets of the outputs. -/
structure Curve where
  /-- The duty of a fan in percent. -/
  fanDuty : Signals → Nat → Float32
  /-- The tach frequency given to a header in hertz. -/
  headerTach : Signals → Nat → Float32

namespace Curve

/-- The host sees the fans and the fans see the host. -/
def transparent : Curve where
  fanDuty s _ := Single.clamp s.headerDuty[0] 0 100
  headerTach s channel := s.fanTach.toList.getD channel 0

/-- The same targets whatever the signals are. -/
def fixed (duties : Vector Float32 fanCount) (tachs : Vector Float32 headerCount) : Curve where
  fanDuty _ channel := duties.toList.getD channel 0
  headerTach _ channel := tachs.toList.getD channel 0

end Curve

end FanBoard
