import FanBoard.TachWorker
import Mathlib.Logic.Function.Basic

/-!
# Two cores at once

Any number of callers ask for the lockout while the worker runs.  `TwoCores` is the state of all of
them, and a `Move` says who goes next.  A move performs one operation on what the cores share: a
caller does its `Caller.step`, and the worker does its `TwoCores.work`.  A run is a list of moves,
and every interleaving is one.

A caller asks once.  Somebody who asks again is another caller.  All clocks are the one clock of
`Shared`, whose readings are arbitrary, so the readings of several clocks in the order of the run are
among them.

`work` takes `TachWorker.start` and `TachWorker.step` apart.  The last group puts the pieces together
again: with nothing between them they are the start of the worker (`run_start`) and the rest of its
step after the safe point (`run_proceed`).
-/

namespace FanBoard

open Lockout

/-- Where the worker stands. -/
inductive WorkerPhase where
  /-- About to make itself known to the lockout. -/
  | registering
  /-- About to read the clock for the first time. -/
  | waking
  /-- About to start its source. -/
  | opening (now : Nat)
  /-- At its safe point.  Once past it, about to read the clock. -/
  | crossing (c : Checkpoint)
  /-- About to note that it waited at its safe point. -/
  | resuming (now : Nat)
  /-- About to poll its source. -/
  | polling (now : Nat)
  /-- About to publish what its source gave. -/
  | publishing (now : Nat) (reading : Option TachReading)
  /-- About to publish its own figures. -/
  | recording (now : Nat)
deriving DecidableEq

namespace WorkerPhase

/-- The worker is past its safe point and has not ended its step. -/
def PastSafePoint : WorkerPhase → Prop
  | .crossing (.passed _) | .resuming _ | .polling _ | .publishing _ _ | .recording _ => True
  | _ => False

/-- What the next operation of the worker does to the words of the lockout. -/
def touch : WorkerPhase → Words → Words
  | .registering, w => w.registerVictim
  | .crossing c, w => (c.step w).2
  | _, w => w

/-- Only callers request and release. -/
@[simp] theorem touch_requested (p : WorkerPhase) (w : Words) :
    (p.touch w).requested = w.requested := by
  cases p with
  | crossing c => cases c <;> rfl
  | _ => rfl

/-- Only callers take numbers. -/
@[simp] theorem touch_requestSeq (p : WorkerPhase) (w : Words) :
    (p.touch w).requestSeq = w.requestSeq := by
  cases p with
  | crossing c => cases c <;> rfl
  | _ => rfl

/-- Once known, the worker stays known. -/
theorem touch_victim (p : WorkerPhase) (w : Words) (hp : p ≠ .registering) :
    (p.touch w).victim = w.victim := by
  cases p with
  | registering => exact absurd rfl hp
  | crossing c => cases c <;> rfl
  | _ => rfl

end WorkerPhase

/-- Whether the next step of a caller takes a number. -/
def Lockout.Caller.takesNumber : Caller → Bool
  | .numbering _ => true
  | _ => false

/-- The callers `ι` on their core and the worker with a source `κ` on the other. -/
structure TwoCores (ι κ : Type) where
  callers : ι → Caller
  phase : WorkerPhase := .registering
  worker : TachWorker κ
  shared : Shared
  /-- How many numbers were taken so far, without the wrap of 32 bits. -/
  requests : Nat := 0

/-- Who goes next. -/
inductive Move (ι κ : Type) where
  /-- A caller. -/
  | call (i : ι)
  /-- The worker. -/
  | work
  /-- What the source counts arrives from outside. -/
  | arrive (f : κ → κ)

namespace TwoCores

variable {ι κ : Type}

/-- All callers before their first step and the worker before its start. -/
def start (timeout : ι → UInt32) (source : κ) (shared : Shared) : TwoCores ι κ where
  callers i := .claiming (timeout i)
  worker := { source }
  shared := { shared with lockout := {} }

/-- One operation of a caller. -/
def call [DecidableEq ι] (i : ι) (s : TwoCores ι κ) : TwoCores ι κ :=
  let caller := s.callers i
  let stepped := caller.step s.shared.clock.now s.shared.lockout
  { s with
    callers := Function.update s.callers i stepped.1
    shared :=
      { s.shared with
        lockout := stepped.2
        clock := if caller.readsClock then s.shared.clock.read.2 else s.shared.clock }
    requests := if caller.takesNumber then s.requests + 1 else s.requests }

/-- The worker reads the clock and goes on to `next`. -/
def readClock (s : TwoCores ι κ) (next : Nat → WorkerPhase) : TwoCores ι κ :=
  { s with
    phase := next s.shared.clock.now
    shared := { s.shared with clock := s.shared.clock.read.2 } }

/-- What a piece of the worker's step leaves, on the way to `next`. -/
def leave (s : TwoCores ι κ) (next : WorkerPhase) (left : TachWorker κ × Shared) : TwoCores ι κ :=
  { s with phase := next, worker := left.1, shared := left.2 }

/-- One operation of the worker. -/
def work (t : TachSource κ) (s : TwoCores ι κ) : TwoCores ι κ :=
  match s.phase with
  | .registering => s.leave .waking (s.worker, TachWorker.register s.shared)
  | .waking => s.readClock .opening
  | .opening now => s.leave (.crossing .entering) (s.worker.restart t now s.shared)
  | .crossing (.passed parked) => s.readClock (if parked then .resuming else .polling)
  | .crossing c =>
    let stepped := c.step s.shared.lockout
    s.leave (.crossing stepped.1) (s.worker, { s.shared with lockout := stepped.2 })
  | .resuming now => s.leave (.polling now) (s.worker.noteParked t now s.shared)
  | .polling now =>
    let counted := s.worker.count now s.shared
    let polled := t.poll now counted.1.source
    s.leave (.publishing now polled.1) ({ counted.1 with source := polled.2 }, counted.2)
  | .publishing now reading =>
    let slots := match reading with
      | some r => s.shared.slots.publish r
      | none => s.shared.slots
    s.leave (.recording now) (s.worker, { s.shared with slots })
  | .recording now =>
    let signed := s.worker.sign now s.shared
    let slots := signed.2.slots.recordWorker signed.1.iterations signed.1.maxLoop
    s.leave (.crossing .entering) (signed.1, { signed.2 with slots })

/-- One move. -/
def step [DecidableEq ι] (t : TachSource κ) (s : TwoCores ι κ) : Move ι κ → TwoCores ι κ
  | .call i => s.call i
  | .work => s.work t
  | .arrive f => { s with worker := { s.worker with source := f s.worker.source } }

/-- The moves in order. -/
def run [DecidableEq ι] (t : TachSource κ) (s : TwoCores ι κ) (moves : List (Move ι κ)) :
    TwoCores ι κ :=
  moves.foldl (step t) s

/-! ## What one move changes -/

@[simp] theorem work_callers (t : TachSource κ) (s : TwoCores ι κ) :
    (s.work t).callers = s.callers := by
  unfold work
  split <;> rfl

@[simp] theorem work_requests (t : TachSource κ) (s : TwoCores ι κ) :
    (s.work t).requests = s.requests := by
  unfold work
  split <;> rfl

/-- The worker touches the words only as `WorkerPhase.touch` says. -/
@[simp] theorem work_lockout (t : TachSource κ) (s : TwoCores ι κ) :
    (s.work t).shared.lockout = s.phase.touch s.shared.lockout := by
  unfold work
  split <;> rename_i h <;> rw [h]
  case h_7 now => exact TachWorker.count_lockout now s.worker s.shared
  case h_9 now => exact TachWorker.sign_lockout now s.worker s.shared
  all_goals rfl

@[simp] theorem call_callers_self [DecidableEq ι] (i : ι) (s : TwoCores ι κ) :
    (s.call i).callers i = ((s.callers i).step s.shared.clock.now s.shared.lockout).1 := by
  simp [call]

theorem call_callers_of_ne [DecidableEq ι] {i j : ι} (hne : j ≠ i) (s : TwoCores ι κ) :
    (s.call i).callers j = s.callers j := by
  simp [call, hne]

@[simp] theorem call_lockout [DecidableEq ι] (i : ι) (s : TwoCores ι κ) :
    (s.call i).shared.lockout =
      ((s.callers i).step s.shared.clock.now s.shared.lockout).2 := rfl

@[simp] theorem call_phase [DecidableEq ι] (i : ι) (s : TwoCores ι κ) :
    (s.call i).phase = s.phase := rfl

/-- Numbers are taken and never given back. -/
theorem requests_le_call [DecidableEq ι] (s : TwoCores ι κ) (i : ι) :
    s.requests ≤ (s.call i).requests := by
  simp only [call]
  split
  · exact Nat.le_succ _
  · exact Nat.le_refl _

theorem requests_le_step [DecidableEq ι] (t : TachSource κ) (s : TwoCores ι κ) (m : Move ι κ) :
    s.requests ≤ (s.step t m).requests := by
  cases m with
  | call i => exact requests_le_call s i
  | work => simp [step]
  | arrive f => exact Nat.le_refl _

theorem requests_le_run [DecidableEq ι] (t : TachSource κ) (s : TwoCores ι κ)
    (moves : List (Move ι κ)) : s.requests ≤ (s.run t moves).requests := by
  induction moves generalizing s with
  | nil => exact Nat.le_refl _
  | cons m moves ih => exact Nat.le_trans (requests_le_step t s m) (ih (s.step t m))

/-! ## The pieces put together -/

/-- The first three operations of the worker are its start. -/
theorem run_start [DecidableEq ι] (t : TachSource κ) (s : TwoCores ι κ)
    (h : s.phase = .registering) :
    s.run t (List.replicate 3 .work) =
      s.leave (.crossing .entering) (s.worker.start t s.shared) := by
  obtain ⟨callers, phase, worker, shared, requests⟩ := s
  subst h
  rfl

/-- The operations of the worker after its safe point are the rest of its step.  There is one more
of them after a wait. -/
theorem run_proceed [DecidableEq ι] (t : TachSource κ) (s : TwoCores ι κ) (parked : Bool)
    (h : s.phase = .crossing (.passed parked)) :
    s.run t (List.replicate (if parked then 5 else 4) .work) =
      s.leave (.crossing .entering) (s.worker.proceed t parked s.shared).2 := by
  obtain ⟨callers, phase, worker, shared, requests⟩ := s
  subst h
  cases parked <;> rfl

end TwoCores

end FanBoard
