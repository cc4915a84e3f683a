import FanBoard.Fault
import FanBoard.Number.Single
import FanBoard.Signals

/-!
# Temperature from a thermistor

A thermistor of 10 kΩ at 25 °C with a beta of 3950 forms a divider with a fixed resistor of 10 kΩ.
Its resistance follows from the voltage of the divider, and its temperature from the beta equation.
A voltage near either rail means that the thermistor is open or shorted.
-/

namespace FanBoard.Thermistor

/-- The resistance at 25 °C in ohms. -/
def referenceOhms : Float32 := 10000

/-- The constant of the beta equation. -/
def beta : Float32 := 3950

/-- The reference temperature of 25 °C in kelvins. -/
def referenceKelvin : Float32 := 298.15

/-- Zero degrees Celsius in kelvins. -/
def zeroCelsius : Float32 := 273.15

/-- The resistance of the divider in ohms. -/
def dividerOhms : Float32 := 10000

/-- The greatest reading of the converter. -/
def fullScale : Float32 := 4095

/-- The voltage of the divider. -/
def supplyVolts : Float32 := 3.3

/-- Readings nearer than this to a rail are no temperature. -/
def railMargin : Float32 := 0.01

/-- The temperature in degrees Celsius of a reading of the converter. -/
def celsius? (raw : UInt16) : Option Float32 :=
  let volts := Single.ofNat raw.toNat / fullScale * supplyVolts
  if volts ≤ railMargin ∨ supplyVolts - railMargin ≤ volts then none
  else
    let ohms := dividerOhms * volts / (supplyVolts - volts)
    let inverse := 1 / referenceKelvin + 1 / beta * (ohms / referenceOhms).log
    if inverse ≤ 0 then none else some (1 / inverse - zeroCelsius)

/-- The reading of the converter at 25 °C. -/
def midScale : UInt16 := 2048

/-- The temperature of a sensor. -/
def read (raw : Vector UInt16 sensorCount) (index : Nat) : Except SensorFault (UInt16 × Float32) :=
  if h : index < sensorCount then
    match celsius? raw[index] with
    | some t => .ok (raw[index], t)
    | none => .error .outOfRange
  else .error .invalidChannel

end FanBoard.Thermistor
