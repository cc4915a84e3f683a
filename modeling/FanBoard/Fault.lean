import FanBoard.Text.Quoted

/-!
# Faults

What can go wrong, by cause: a sensor, an actuator, the lockout, the settings, or the start of a
peripheral.  `Fault` joins the first four for the controller.  Each cause has a name and a message.
-/

namespace FanBoard

/-- A sensor gave no value. -/
inductive SensorFault where
  | adcReadFailed
  | invalidChannel
  | outOfRange
  | noSignal
deriving Repr, DecidableEq

namespace SensorFault

def name : SensorFault → String
  | .adcReadFailed => "AdcReadFailed"
  | .invalidChannel => "InvalidChannel"
  | .outOfRange => "OutOfRange"
  | .noSignal => "NoSignal"

/-- The message for a reader of the log. -/
def message : SensorFault → String
  | .adcReadFailed => "ADC read failed"
  | .invalidChannel => "invalid channel"
  | .outOfRange => "reading out of range"
  | .noSignal => "no input signal"

end SensorFault

/-- An output did not take a value. -/
inductive ActuatorFault where
  | pwmWriteFailed
  | frequencyWriteFailed
  | invalidChannel
deriving Repr, DecidableEq

namespace ActuatorFault

def name : ActuatorFault → String
  | .pwmWriteFailed => "PwmWriteFailed"
  | .frequencyWriteFailed => "FrequencyWriteFailed"
  | .invalidChannel => "InvalidChannel"

/-- The message for a reader of the log. -/
def message : ActuatorFault → String
  | .pwmWriteFailed => "PWM write failed"
  | .frequencyWriteFailed => "tach frequency write failed"
  | .invalidChannel => "invalid channel"

end ActuatorFault

/-- The lockout was not granted. -/
inductive LockoutFault where
  /-- Another caller holds it. -/
  | busy
  /-- The worker did not park in time. -/
  | timeout
deriving Repr, DecidableEq

namespace LockoutFault

def name : LockoutFault → String
  | .busy => "Busy"
  | .timeout => "Timeout"

/-- The message for a reader of the log. -/
def message : LockoutFault → String
  | .busy => "already held"
  | .timeout => "worker did not park in time"

end LockoutFault

/-- Settings could not be loaded. -/
inductive SettingsFault where
  /-- The document does not spell settings. -/
  | corrupted
  /-- The settings were refused for a reason. -/
  | refused (reason : String)
  /-- The document could not be read. -/
  | unreadable
deriving Repr, DecidableEq

namespace SettingsFault

def name : SettingsFault → String
  | .corrupted => "Corrupted"
  | .refused _ => "ValidationFailed"
  | .unreadable => "IoError"

/-- The message for a reader of the log. -/
def message : SettingsFault → String
  | .corrupted => "config corrupted"
  | .refused reason => "validation failed: " ++ reason
  | .unreadable => "I/O error"

end SettingsFault

/-- A fault that the controller or the loading of settings meets. -/
inductive Fault where
  | sensor (f : SensorFault)
  | actuator (f : ActuatorFault)
  | lockout (f : LockoutFault)
  | settings (reason : String)
deriving Repr, DecidableEq

namespace Fault

/-- The message for a reader of the log. -/
def message : Fault → String
  | .sensor f => "sensor: " ++ f.message
  | .actuator f => "actuator: " ++ f.message
  | .lockout f => "lockout: " ++ f.message
  | .settings reason => "config: " ++ reason

/-- The fault by the names of its causes, with a reason in quotes. -/
def describe : Fault → String
  | .sensor f => "Sensor(" ++ f.name ++ ")"
  | .actuator f => "Actuator(" ++ f.name ++ ")"
  | .lockout f => "Lockout(" ++ f.name ++ ")"
  | .settings reason => "Config(" ++ Quoted.quote reason ++ ")"

end Fault

/-- A failed load of settings as a fault. -/
def SettingsFault.toFault : SettingsFault → Fault
  | .corrupted => .settings "corrupted"
  | .refused reason => .settings reason
  | .unreadable => .settings "I/O error"

/-- The peripheral that did not start. -/
inductive Peripheral where
  | adc
  | gpio
  | ledc
  | isr
  | uart
deriving Repr, DecidableEq

/-- A peripheral did not start and gave a return code. -/
structure StartFault where
  peripheral : Peripheral
  code : Int
deriving Repr, DecidableEq

namespace StartFault

def name (f : StartFault) : String :=
  match f.peripheral with
  | .adc => "AdcInitFailed"
  | .gpio => "GpioConfigFailed"
  | .ledc => "LedcInitFailed"
  | .isr => "IsrInstallFailed"
  | .uart => "UartInstallFailed"

/-- What failed. -/
def subject (f : StartFault) : String :=
  match f.peripheral with
  | .adc => "ADC1 init"
  | .gpio => "GPIO config"
  | .ledc => "LEDC timer/channel config"
  | .isr => "GPIO ISR service install"
  | .uart => "UART driver install"

/-- The message for a reader of the log. -/
def message (f : StartFault) : String :=
  f.subject ++ " failed (rc=" ++ toString f.code ++ ")"

/-- The fault by the name of its cause. -/
def describe (f : StartFault) : String :=
  f.name ++ "(" ++ toString f.code ++ ")"

end StartFault

end FanBoard
