import FanBoard.Clock
import FanBoard.Lockout.Caller
import FanBoard.Log
import FanBoard.Tach.Slots

/-!
# What the two cores share

The controller on one core and the worker on the other see one clock, the published tach
frequencies, the words of the lockout, and one journal.
-/

namespace FanBoard

/-- What both cores see. -/
structure Shared where
  clock : Clock
  slots : TachSlots := {}
  lockout : Lockout.Words := {}
  journal : Journal := {}

namespace Shared

/-- Logs a line. -/
def note (s : Shared) (l : Log.Line) : Shared :=
  { s with journal := s.journal.add l }

/-- Logs lines. -/
def notes (s : Shared) (ls : List Log.Line) : Shared :=
  { s with journal := s.journal.addAll ls }

@[simp] theorem note_lockout (s : Shared) (l : Log.Line) : (s.note l).lockout = s.lockout := rfl

@[simp] theorem notes_slots (s : Shared) (ls : List Log.Line) : (s.notes ls).slots = s.slots := rfl

/-- The same with no lines in the journal. -/
def cleared (s : Shared) : Shared :=
  { s with journal := s.journal.cleared }

/-- Makes a worker known to the lockout. -/
def registerWorker (s : Shared) : Shared :=
  { s with lockout := s.lockout.registerVictim }.note Lockout.registrationLine

/-- Asks for the lockout. -/
def acquire (s : Shared) (peer : Nat → Lockout.Words → Lockout.Words) (timeout : UInt32) :
    Lockout.Verdict × Shared :=
  let a := Lockout.acquire peer timeout s.lockout s.clock
  (a.verdict, { s with lockout := a.words, clock := a.clock }.notes (a.verdict.log timeout))

end Shared

end FanBoard
