/-!
# Why the board started

A register that survives a reset holds the reason of the reset until it is taken.
-/

namespace FanBoard

/-- Why the board came out of reset. -/
inductive ResetReason where
  | powerOn
  | watchdog
  | software
  | panic
  | other
deriving Repr, DecidableEq

namespace ResetReason

def name : ResetReason → String
  | .powerOn => "PowerOn"
  | .watchdog => "Watchdog"
  | .software => "Software"
  | .panic => "Panic"
  | .other => "Other"

/-- The reason found without a reset register: the board was switched on. -/
def detected : ResetReason := .powerOn

/-- Whether the watchdog caused the reset. -/
def byWatchdog (r : ResetReason) : Bool :=
  r == .watchdog

/-- What the terminal is told about a reason. -/
def notice? (r : ResetReason) : Option String :=
  if r.byWatchdog then some "[Rebooted by watchdog]" else none

end ResetReason

/-- The register that survives a reset. -/
structure ResetRegister where
  recorded : Option ResetReason := none
deriving Repr, DecidableEq

namespace ResetRegister

def record (_ : ResetRegister) (reason : ResetReason) : ResetRegister :=
  ⟨some reason⟩

/-- The recorded reason, and the register without it. -/
def take (r : ResetRegister) : Option ResetReason × ResetRegister :=
  (r.recorded, ⟨none⟩)

end ResetRegister

end FanBoard
