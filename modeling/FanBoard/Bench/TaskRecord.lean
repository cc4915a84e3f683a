import FanBoard.Timetable.Basic

/-!
# A record of tasks

A `TaskRecord` stands in for the controller while the timetable is tried out.  It keeps every task
that was run together with what the task was told.  Which tasks have work is set by hand, and a task
can lose its work by being run.
-/

namespace FanBoard

/-- The tasks that were run. -/
structure TaskRecord where
  /-- The tasks that have work. -/
  waiting : List Task := []
  /-- Whether a task that is run has no more work. -/
  clears : Bool := false
  /-- The tasks that were run, each with its tick. -/
  runs : Array (Task × Tick) := #[]
  journal : Journal := {}
deriving DecidableEq

namespace TaskRecord

/-- Keeps a task that is run. -/
def run (task : Task) (tick : Tick) (r : TaskRecord) : TaskRecord :=
  { r with
    waiting := if r.clears then r.waiting.filter (· != task) else r.waiting
    runs := r.runs.push (task, tick) }

/-- The record as a runner. -/
def runner : Runner TaskRecord where
  run := run
  pending task r := r.waiting.contains task
  note line r := { r with journal := r.journal.add line }

/-- The record as a runner whose tasks never have work. -/
def idleRunner : Runner TaskRecord :=
  { runner with pending := fun _ _ => false }

end TaskRecord

end FanBoard
