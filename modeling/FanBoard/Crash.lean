import FanBoard.Log

/-!
# Crashes

A crash carries a payload.  A text says why, and anything else does not.  The reason is logged
before the board resets.
-/

namespace FanBoard

/-- What a crash carries. -/
inductive Crash where
  | text (reason : String)
  | unknown
deriving Repr, DecidableEq

namespace Crash

/-- Why it happened. -/
def reason : Crash → String
  | .text reason => reason
  | .unknown => "unknown panic"

/-- Where it happened, as the log shows it. -/
def placeText : Option (String × Nat) → String
  | some (file, line) => " at " ++ file ++ ":" ++ toString line
  | none => ""

/-- The line that a crash at a place logs. -/
def line (c : Crash) (place : Option (String × Nat)) : Log.Line :=
  Log.Origin.diagnostics.line .error ("PANIC: " ++ c.reason ++ placeText place)

end Crash

end FanBoard
