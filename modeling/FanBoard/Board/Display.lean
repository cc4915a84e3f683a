import FanBoard.Log
import FanBoard.Number.FixedPlaces
import FanBoard.Settings.Basic
import FanBoard.Signals

/-!
# The display

The display is one line that shows all signals.  It is drawn to the log.
-/

namespace FanBoard

/-- The display and what it shows. -/
structure Display where
  /-- The number of times it was drawn, in 32 bits. -/
  refreshes : UInt32 := 0
  /-- What it shows. -/
  last : String := ""
deriving Repr, DecidableEq

namespace Display

/-- The duty and the tach frequency of one fan or header. -/
def channelText (name : String) (number : Nat) (duty tach : Float32) : String :=
  " " ++ name ++ toString number ++ "=" ++ FixedPlaces.text 0 duty ++ "%/"
    ++ FixedPlaces.text 1 tach ++ "Hz"

/-- One temperature. -/
def sensorText (number : Nat) (temperature : Float32) : String :=
  " T" ++ toString number ++ "=" ++ FixedPlaces.text 1 temperature ++ "°C"

/-- The line that shows the signals. -/
def render (s : Signals) (settings : Settings) : String :=
  "STATUS |"
    ++ String.join ((List.finRange headerCount).map fun i : Fin headerCount =>
      channelText "mb" (i.val + 1) (s.headerDuty.get i) (s.headerTach.get i))
    ++ " |"
    ++ String.join ((List.finRange fanCount).map fun i : Fin fanCount =>
      channelText "fan" (i.val + 1) (s.fanDuty.get i) (s.fanTach.get i))
    ++ " |"
    ++ String.join ((List.finRange sensorCount).map fun i : Fin sensorCount =>
      sensorText (i.val + 1) (s.temperature.get i))
    ++ " | led=" ++ toString settings.ledMode.code

/-- Draws the display. -/
def refresh (d : Display) (s : Signals) (settings : Settings) : Outcome Display Unit :=
  let last := render s settings
  { value := ()
    state := { refreshes := d.refreshes + 1, last }
    log := [Log.Origin.display.line .info last] }

end Display

end FanBoard
