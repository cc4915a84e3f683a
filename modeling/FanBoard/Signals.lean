/-!
# The signals of the board

The board sits between a host with two fan headers and four fans.  It reads the duty that the host
asks for on each header, the tach frequency of each fan and two temperatures.  It drives the duty
of each fan and a tach frequency toward each header.

`Signals` holds what was last acted on.
-/

namespace FanBoard

/-- The number of fans. -/
abbrev fanCount : Nat := 4

/-- The number of fan headers toward the host. -/
abbrev headerCount : Nat := 2

/-- The number of temperature sensors. -/
abbrev sensorCount : Nat := 2

/-- The inputs and outputs last acted on. -/
structure Signals where
  /-- The duty in percent that the host asks for on each header. -/
  headerDuty : Vector Float32 headerCount := Vector.replicate _ 0
  /-- The tach frequency of each fan in hertz. -/
  fanTach : Vector Float32 fanCount := Vector.replicate _ 0
  /-- The temperature of each sensor in degrees Celsius. -/
  temperature : Vector Float32 sensorCount := Vector.replicate _ 0
  /-- The duty in percent that each fan is driven at. -/
  fanDuty : Vector Float32 fanCount := Vector.replicate _ 0
  /-- The tach frequency in hertz that each header is given. -/
  headerTach : Vector Float32 headerCount := Vector.replicate _ 0
  /-- Whether an input changed since the outputs were last computed. -/
  dirty : Bool := false
deriving DecidableEq

namespace Signals

/-- All signals at zero. -/
def zero : Signals := {}

/-- Notes that an input changed. -/
def markDirty (s : Signals) : Signals :=
  { s with dirty := true }

/-- Whether an input changed, and the signals with that note removed. -/
def takeDirty (s : Signals) : Bool × Signals :=
  (s.dirty, { s with dirty := false })

end Signals

end FanBoard
