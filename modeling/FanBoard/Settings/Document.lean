import FanBoard.Fault
import FanBoard.Json.Printer
import FanBoard.Json.Reader
import FanBoard.Json.Record
import FanBoard.Settings.Basic

/-!
# Settings as a document

`Settings.toJson` writes every field in order.  `Settings.parse` reads a document in which any field
may be missing and checks the result.
-/

namespace FanBoard

/-- The greatest number of 32 bits. -/
private def maxWord : Nat := UInt32.size - 1

/-- A field of 32 bits. -/
private def wordField {α : Type} (name : String) (put : UInt32 → α → α) : Json.Field α :=
  .natural name maxWord fun n => put (UInt32.ofNat n)

/-- The thresholds in a document. -/
def Thresholds.fields : List (Json.Field Thresholds) :=
  [ .single "input_duty" fun x t => { t with inputDuty := x },
    .single "output_duty" fun x t => { t with outputDuty := x },
    .single "input_freq" fun x t => { t with inputTach := x },
    .single "output_freq" fun x t => { t with outputTach := x },
    .single "temperature" fun x t => { t with temperature := x } ]

/-- The periods in a document. -/
def Intervals.fields : List (Json.Field Intervals) :=
  [ wordField "network_poll_ms" fun n i => { i with networkPoll := n },
    wordField "status_led_ms" fun n i => { i with statusLed := n },
    wordField "display_ms" fun n i => { i with display := n },
    wordField "input_duty_ms" fun n i => { i with inputDuty := n },
    wordField "temperature_ms" fun n i => { i with temperature := n },
    wordField "input_freq_ms" fun n i => { i with inputTach := n },
    wordField "output_update_ms" fun n i => { i with outputUpdate := n } ]

/-- The settings in a document. -/
def Settings.fields : List (Json.Field Settings) :=
  [ .bool "local_echo" fun b s => { s with localEcho := b },
    wordField "console_wait_ms" fun n s => { s with consoleWait := n },
    .natural "led_mode" 255 fun n s => { s with ledMode := .ofCode n },
    ⟨"thresholds", fun j s =>
      (Json.Field.record? Thresholds.fields {} j).map fun t => { s with thresholds := t }⟩,
    ⟨"intervals", fun j s =>
      (Json.Field.record? Intervals.fields {} j).map fun i => { s with intervals := i }⟩,
    wordField "tach_window_ms" fun n s => { s with tachWindow := n },
    wordField "lockout_timeout_ms" fun n s => { s with lockoutTimeout := n },
    wordField "watchdog_timeout_ms" fun n s => { s with watchdogTimeout := n } ]

/-- The thresholds as a document. -/
def Thresholds.toJson (t : Thresholds) : Json :=
  .ofMembers
    [ ("input_duty", .ofSingle t.inputDuty),
      ("output_duty", .ofSingle t.outputDuty),
      ("input_freq", .ofSingle t.inputTach),
      ("output_freq", .ofSingle t.outputTach),
      ("temperature", .ofSingle t.temperature) ]

/-- The periods as a document. -/
def Intervals.toJson (i : Intervals) : Json :=
  .ofMembers
    [ ("network_poll_ms", .ofNat i.networkPoll.toNat),
      ("status_led_ms", .ofNat i.statusLed.toNat),
      ("display_ms", .ofNat i.display.toNat),
      ("input_duty_ms", .ofNat i.inputDuty.toNat),
      ("temperature_ms", .ofNat i.temperature.toNat),
      ("input_freq_ms", .ofNat i.inputTach.toNat),
      ("output_update_ms", .ofNat i.outputUpdate.toNat) ]

namespace Settings

/-- The settings as a document. -/
def toJson (s : Settings) : Json :=
  .ofMembers
    [ ("local_echo", .bool s.localEcho),
      ("console_wait_ms", .ofNat s.consoleWait.toNat),
      ("led_mode", .ofNat s.ledMode.code),
      ("thresholds", s.thresholds.toJson),
      ("intervals", s.intervals.toJson),
      ("tach_window_ms", .ofNat s.tachWindow.toNat),
      ("lockout_timeout_ms", .ofNat s.lockoutTimeout.toNat),
      ("watchdog_timeout_ms", .ofNat s.watchdogTimeout.toNat) ]

/-- The text of the settings. -/
def render (s : Settings) : String :=
  s.toJson.compact

/-- The settings that a document spells, over the defaults. -/
def ofJson? (j : Json) : Option Settings :=
  Json.Field.record? fields {} j

/-- Reads the text of settings and checks them. -/
def parse (text : String) : Except SettingsFault Settings :=
  match (Json.read? text).bind ofJson? with
  | none => .error .corrupted
  | some s => s.check.mapError fun d => .refused d.message

end Settings

end FanBoard
