import FanBoard.Log
import FanBoard.Supervision.Reset

/-!
# Watchdogs

`Watchdog` is the watchdog of the board as the controller sees it: armed once and fed.

`Supervisor` is a watchdog with a deadline.  Once it finds that it was not fed in time it stays
expired until it is armed again, and records the reason in the reset register.
-/

namespace FanBoard

/-- A watchdog that counts its feeds. -/
structure Watchdog where
  /-- The longest time between two feeds in milliseconds. -/
  timeout : UInt32
  /-- The number of feeds, in 64 bits. -/
  feeds : UInt64 := 0
deriving Repr, DecidableEq

namespace Watchdog

/-- Arms the watchdog. -/
def arm (timeout : UInt32) : Outcome Watchdog Unit where
  value := ()
  state := { timeout }
  log :=
    [Log.Origin.watchdog.line .info
      ("Watchdog(sim): armed (" ++ toString timeout.toNat ++ " ms), feeds counted only")]

def feed (w : Watchdog) : Watchdog :=
  { w with feeds := w.feeds + 1 }

end Watchdog

/-- What a watchdog with a deadline reports. -/
inductive WatchdogStatus where
  | disarmed
  | ok
  | expired
deriving Repr, DecidableEq

def WatchdogStatus.name : WatchdogStatus → String
  | .disarmed => "Disarmed"
  | .ok => "Ok"
  | .expired => "Expired"

/-- A watchdog with a deadline. -/
structure Supervisor where
  /-- The longest time between two feeds in microseconds. -/
  timeout : Nat := 0
  /-- When it was armed or last fed, if it was armed. -/
  lastFeed : Option Nat := none
  /-- Whether it found that it was not fed in time. -/
  expired : Bool := false
deriving Repr, DecidableEq

namespace Supervisor

/-- Arms the watchdog at `now`. -/
def arm (_ : Supervisor) (now : Nat) (ms : UInt32) : Supervisor where
  timeout := ms.toNat * 1000
  lastFeed := some now
  expired := false

/-- Feeds the watchdog, if it is armed and not expired. -/
def feed (s : Supervisor) (now : Nat) : Supervisor :=
  match s.lastFeed with
  | none => s
  | some _ => if s.expired then s else { s with lastFeed := some now }

def expiryLine : Log.Line :=
  Log.Origin.watchdog.line .warn "Watchdog(sim): expired, resetting"

/-- Looks at the deadline. -/
def poll (s : Supervisor) (register : ResetRegister) (now : Nat) :
    Outcome (Supervisor × ResetRegister) WatchdogStatus :=
  match s.lastFeed with
  | none => { value := .disarmed, state := (s, register) }
  | some last =>
    if s.expired then { value := .expired, state := (s, register) }
    else if s.timeout < now - last then
      { value := .expired
        state := ({ s with expired := true }, register.record .watchdog)
        log := [expiryLine] }
    else { value := .ok, state := (s, register) }

end Supervisor

end FanBoard
