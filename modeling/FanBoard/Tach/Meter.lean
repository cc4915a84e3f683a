import FanBoard.Log
import FanBoard.Number.Single
import FanBoard.Tach.Slots

/-!
# Counting tach pulses

Each fan has a counter that goes up at every pulse and a window that says since when pulses count.
`PulseMeter.poll` visits the fans in turn, one at each call.  The first visit of a fan opens its
window.  A later visit that finds the window long enough takes the counter, gives the frequency and
opens the next window.

`PulseMeter.restart` drops all pulses and opens every window anew.
-/

namespace FanBoard

/-- The counters and the windows of the fans. -/
structure PulseMeter where
  /-- The length of a window in microseconds. -/
  window : Nat
  /-- The pulses of each fan since its counter was last taken. -/
  pulses : Vector UInt32 fanCount := Vector.replicate _ 0
  /-- When the window of each fan was opened, if it is open. -/
  opened : Vector (Option Nat) fanCount := Vector.replicate _ none
  /-- The fan to visit next. -/
  cursor : Fin fanCount := 0
deriving DecidableEq

namespace PulseMeter

/-- A meter with windows of `ms` milliseconds, at least one. -/
def ofMillis (ms : UInt32) : PulseMeter where
  window := max 1 ms.toNat * 1000

/-- The line that a new meter logs. -/
def openingLine (ms : UInt32) : Log.Line :=
  Log.Origin.tach.line .debug ("tach: capture window " ++ toString ms.toNat ++ " ms")

/-- Counts `n` pulses of a fan.  A channel that is no fan has no counter. -/
def record (m : PulseMeter) (channel : Nat) (n : UInt32) : PulseMeter :=
  if h : channel < fanCount then
    { m with pulses := m.pulses.set channel (m.pulses[channel] + n) }
  else m

/-- The pulses of a fan, and the meter with its counter at zero. -/
def take (m : PulseMeter) (channel : Nat) : UInt32 × PulseMeter :=
  if h : channel < fanCount then
    (m.pulses[channel], { m with pulses := m.pulses.set channel 0 })
  else (0, m)

/-- Takes the counter of a fan and opens its window. -/
def reopen (m : PulseMeter) (now : Nat) (channel : Fin fanCount) : PulseMeter :=
  let m := (m.take channel).2
  { m with opened := m.opened.set channel.val (some now) channel.isLt }

/-- The frequency of `pulses` pulses in `elapsed` microseconds. -/
def frequency (pulses : UInt32) (elapsed : Nat) : Float32 :=
  Single.ofNat pulses.toNat * 1000000 / Single.ofNat elapsed

def visit (m : PulseMeter) (now : Nat) (channel : Fin fanCount) : Option TachReading × PulseMeter :=
  match m.opened.get channel with
  | none => (none, m.reopen now channel)
  | some start =>
    let elapsed := now - start
    if elapsed < m.window then (none, m)
    else (some ⟨channel, frequency (m.pulses.get channel) elapsed⟩, m.reopen now channel)

/-- Visits the next fan. -/
def poll (m : PulseMeter) (now : Nat) : Option TachReading × PulseMeter :=
  { m with cursor := m.cursor + 1 }.visit now m.cursor

/-- Drops all pulses and opens every window. -/
def restart (m : PulseMeter) (now : Nat) : PulseMeter :=
  (List.finRange fanCount).foldl (fun m channel => m.reopen now channel) m

def restartLine : Log.Line :=
  Log.Origin.tach.line .debug "tach: windows restarted"

end PulseMeter

end FanBoard
