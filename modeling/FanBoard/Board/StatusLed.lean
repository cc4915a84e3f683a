import FanBoard.Log

/-!
# The status light

The light follows its pin.  A write to the pin may fail, and then the light stays as it was.
-/

namespace FanBoard

/-- An output pin, whose writes may fail. -/
structure Pin where
  high : Bool := false
  failing : Bool := false
deriving Repr, DecidableEq

/-- Writes a level, unless writes fail. -/
def Pin.write? (p : Pin) (high : Bool) : Option Pin :=
  if p.failing then none else some { p with high }

/-- The status light on its pin. -/
structure StatusLed where
  pin : Pin
  on : Bool := false
deriving Repr, DecidableEq

namespace StatusLed

/-- The line that a failed write logs. -/
def failureLine : Log.Line :=
  Log.Origin.statusLed.line .warn "status_led: pin write failed"

/-- Turns the light on or off. -/
def set (l : StatusLed) (on : Bool) : Outcome StatusLed Unit :=
  match l.pin.write? on with
  | some pin => { value := (), state := { pin, on } }
  | none => { value := (), state := l, log := [failureLine] }

/-- A dark light on a pin. -/
def start (pin : Pin) : Outcome StatusLed Unit :=
  match pin.write? false with
  | some pin => { value := (), state := { pin } }
  | none => { value := (), state := { pin }, log := [failureLine] }

end StatusLed

end FanBoard
