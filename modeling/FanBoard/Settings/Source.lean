import FanBoard.Log
import FanBoard.Settings.Document
import FanBoard.Text.Utf8

/-!
# Where settings come from

A file named by an environment variable holds the settings.  Where no file is named, or the named
one does not exist, the defaults hold.  `loadOrDefault` never fails: it gives settings that passed
the check, or else the defaults.
-/

namespace FanBoard

/-- The environment variable that names the file. -/
def settingsVariable : String := "FANBRIDGE_CONFIG"

/-- What was found under the name of the file. -/
inductive SettingsFile where
  /-- No file is named. -/
  | unnamed
  /-- There is no such file. -/
  | missing
  /-- It cannot be read. -/
  | unreadable
  /-- It holds these bytes. -/
  | bytes (content : List UInt8)
deriving Repr, DecidableEq

/-- The settings in a file. -/
def SettingsFile.load : SettingsFile → Except SettingsFault Settings
  | .unnamed => .ok {}
  | .missing => .ok {}
  | .unreadable => .error .unreadable
  | .bytes content =>
    match Utf8.decode? content with
    | none => .error .unreadable
    | some text => Settings.parse text

namespace Settings

/-- Checks settings that were loaded. -/
def validated (loaded : Except SettingsFault Settings) : Except Fault Settings := do
  let s ← loaded.mapError SettingsFault.toFault
  s.check.mapError fun d => .settings d.message

/-- The loaded settings if they pass the check, and else the defaults with a warning. -/
def loadOrDefault (loaded : Except SettingsFault Settings) : Settings × List Log.Line :=
  match validated loaded with
  | .ok s => (s, [])
  | .error f =>
    ({}, [Log.Origin.settings.line .warn (f.message ++ ", using defaults")])

end Settings

end FanBoard
