import FanBoard.Clock
import FanBoard.Fault
import FanBoard.Lockout.Words
import FanBoard.Log

/-!
# Asking for the lockout

A caller goes through an acquisition in small steps.  Every constructor of `Caller` says which
operation comes next, and `Caller.step` performs exactly one: one operation on the shared words or
one reading of the clock.  Any interleaving of callers and worker is a sequence of such steps.

`acquire` lets one caller go through its steps while the other core does what `peer` says before
each of them.
-/

namespace FanBoard.Lockout

/-- Where a caller stands. -/
inductive Caller where
  /-- About to claim the request, if nobody has. -/
  | claiming (timeout : UInt32)
  /-- About to take the next number. -/
  | numbering (timeout : UInt32)
  /-- About to look whether there is a worker. -/
  | seeking (timeout seq : UInt32)
  /-- About to read the clock for the first time. -/
  | starting (timeout seq : UInt32)
  /-- About to look at the answer of the worker. -/
  | looking (timeout seq : UInt32) (start : Nat)
  /-- About to read the clock after a look that failed. -/
  | timing (timeout seq : UInt32) (start : Nat)
  /-- About to withdraw a request that took too long. -/
  | withdrawing
  /-- About to count a request that was granted. -/
  | counting
  /-- Holds the lockout and is about to release it. -/
  | holding
  /-- Released the lockout. -/
  | released
  /-- Did not get the lockout. -/
  | refused (f : LockoutFault)
deriving Repr, DecidableEq

namespace Caller

/-- The wait for the worker in microseconds. -/
def budget (timeout : UInt32) : Nat :=
  timeout.toNat * 1000

/-- Whether the next step reads the clock. -/
def readsClock : Caller → Bool
  | .starting .. | .timing .. => true
  | _ => false

/-- One step.  A step that reads the clock reads `now`. -/
def step (now : Nat) : Caller → Words → Caller × Words
  | .claiming timeout, w =>
    if w.requested then (.refused .busy, w) else (.numbering timeout, { w with requested := true })
  | .numbering timeout, w =>
    let seq := w.requestSeq + 1
    (.seeking timeout seq, { w with requestSeq := seq })
  | .seeking timeout seq, w => (if w.victim then .starting timeout seq else .counting, w)
  | .starting timeout seq, w => (.looking timeout seq now, w)
  | .looking timeout seq start, w =>
    (if w.parkAck = seq then .counting else .timing timeout seq start, w)
  | .timing timeout seq start, w =>
    (if budget timeout ≤ now - start then .withdrawing else .looking timeout seq start, w)
  | .withdrawing, w => (.refused .timeout, w.release)
  | .counting, w => (.holding, { w with rounds := w.rounds + 1 })
  | .holding, w => (.released, w.release)
  | .released, w => (.released, w)
  | .refused f, w => (.refused f, w)

end Caller

/-- How an acquisition ended. -/
inductive Verdict where
  | held
  | refused (f : LockoutFault)
  /-- It has not ended: the worker does not park and the clock does not reach the deadline. -/
  | waiting
deriving Repr, DecidableEq

/-- How the acquisition of a caller ended, if it ended. -/
def Caller.verdict? : Caller → Option Verdict
  | .holding => some .held
  | .refused f => some (.refused f)
  | _ => none

/-- What an acquisition leaves. -/
structure Acquisition where
  verdict : Verdict
  words : Words
  clock : Clock

/-- Lets a caller go on for at most `fuel` steps, until it holds the lockout or is refused.  Before
its step number `n` the other core does `peer n`. -/
def Caller.run (peer : Nat → Words → Words) : Nat → Nat → Caller → Words → Clock → Acquisition
  | 0, _, caller, words, clock => ⟨caller.verdict?.getD .waiting, words, clock⟩
  | fuel + 1, n, caller, words, clock =>
    match caller.verdict? with
    | some verdict => ⟨verdict, words, clock⟩
    | none =>
      let clock' := if caller.readsClock then clock.read.2 else clock
      let (caller, words) := caller.step clock.now (peer n words)
      run peer fuel (n + 1) caller words clock'

/-- Enough steps for an acquisition under a clock of 64 bits that moves by a fixed step.  A waiting
caller reads the clock in every second step, and after `UInt64.size` reads the readings repeat.  A
caller that is not answered for longer waits for ever. -/
def Caller.enough : Nat :=
  2 * UInt64.size + 10

/-- Asks for the lockout and waits for the worker at most `timeout` milliseconds. -/
def acquire (peer : Nat → Words → Words) (timeout : UInt32) (words : Words) (clock : Clock) :
    Acquisition :=
  Caller.run peer Caller.enough 0 (.claiming timeout) words clock

/-- The line that an acquisition logs. -/
def Verdict.log (timeout : UInt32) : Verdict → List Log.Line
  | .refused .timeout =>
    [Log.Origin.lockout.line .warn
      ("lockout: worker did not park within " ++ toString timeout.toNat ++ " ms")]
  | _ => []

/-- The line that the registration of a worker logs. -/
def registrationLine : Log.Line :=
  Log.Origin.lockout.line .debug "lockout: victim registered"

end FanBoard.Lockout
