import FanBoard.Number.Power
import FanBoard.Signals

/-!
# Pins and peripherals

Which pin and which peripheral each signal uses.  The entry of a channel stands at its place.
-/

namespace FanBoard.Pinout

/-- The pins that drive the fans. -/
def fanPwm : Vector Int fanCount := #v[4, 5, 6, 7]

/-- The pins on which the fans pulse. -/
def fanTach : Vector Int fanCount := #v[15, 16, 17, 18]

/-- The pins on which the host asks for a duty. -/
def headerPwm : Vector Int headerCount := #v[8, 9]

/-- The pins that pulse toward the host. -/
def headerTach : Vector Int headerCount := #v[10, 11]

/-- The pins of the temperature sensors. -/
def thermistor : Vector Int sensorCount := #v[1, 2]

/-- The converter channels of the temperature sensors. -/
def thermistorChannel : Vector Nat sensorCount := #v[0, 1]

/-- The pin of the status light. -/
def statusLed : Int := 48

/-- The number of the serial line. -/
def uartNumber : Int := 0

/-- The pin on which the serial line sends. -/
def uartTx : Int := 43

/-- The pin on which the serial line receives. -/
def uartRx : Int := 44

/-- The speed of the serial line in baud. -/
def uartBaud : Nat := 115200

/-- The resolution of the fan outputs in bits. -/
def fanPwmBits : Nat := 10

/-- The frequency of the fan outputs in hertz. -/
def fanPwmHz : Nat := 25000

/-- The greatest raw duty of a fan output. -/
def fanDutyMax : Nat := twoTo fanPwmBits - 1

/-- The resolution of the tach outputs in bits. -/
def headerTachBits : Nat := 8

/-- The least frequency of a tach output in hertz. -/
def headerTachMinHz : Float32 := 1

/-- The first output channel of the fans. -/
def fanChannel : Nat := 0

/-- The first output channel of the tachs. -/
def headerTachChannel : Nat := 4

/-- The first timer of the tach outputs. -/
def headerTachTimer : Nat := 1

end FanBoard.Pinout
