import FanBoard.Proofs.Supervision.Latch
import FanBoard.Proofs.Timetable.Course

/-!
# The supervised loop

The standard timetable runs with a watchdog that has a deadline.  The watchdog task polls it and feeds
it unless it expired.  The other tasks may take any time.

* The watchdog has the last slot, and that runs in every tick (`before_succ`).  So the watchdog is
  polled and fed once in every tick, after all other tasks.
* A tick is late if the watchdog is polled in it more than the timeout after it was last fed, or armed.
  `Stalled k` says that a tick before tick `k` was late.
* `steady_before` is the invariant.  Until a tick was late the watchdog knows when it was last fed and
  the register is empty.  From then on it is expired, and the register tells until it is taken.
* `expires_on_stall` is the result: all polls, and what is found in the register before any tick.
-/

namespace FanBoard

/-! ## The loop -/

/-- The main loop with a watchdog that has a deadline. -/
structure SupervisedLoop (ρ : Type) where
  /-- Who runs the tasks.  What it does for the watchdog task comes before the poll. -/
  runner : Runner ρ
  /-- What the clock shows. -/
  clock : ρ → Nat
  /-- What the watchdog task does between the poll and the feed. -/
  between : WatchdogStatus → ρ → ρ
  intervals : Intervals
  /-- The timeout of the watchdog in milliseconds. -/
  timeout : UInt32
  /-- When the ticks come. -/
  time : Nat → Nat
  /-- What happens before a tick. -/
  outside : Nat → ρ → ρ
  /-- Whether the reason of the reset is taken before a tick. -/
  takes : Nat → Bool
  start : ρ

/-- A poll of the watchdog. -/
structure WatchdogPoll where
  time : Nat
  status : WatchdogStatus
deriving DecidableEq

/-- The state of the loop with the watchdog and its register, and the polls so far. -/
structure Guarded (ρ : Type) where
  inner : ρ
  supervisor : Supervisor
  register : ResetRegister := {}
  polls : List WatchdogPoll := []

namespace SupervisedLoop

variable {ρ : Type} (l : SupervisedLoop ρ)

/-- Polls the watchdog, and feeds it unless it expired. -/
def check (g : Guarded ρ) : Guarded ρ :=
  let now := l.clock g.inner
  let poll := g.supervisor.poll g.register now
  let inner := l.between poll.value (poll.log.foldl (fun r line => l.runner.note line r) g.inner)
  { inner
    supervisor :=
      if poll.value = .expired then poll.state.1 else poll.state.1.feed (l.clock inner)
    register := poll.state.2
    polls := g.polls ++ [⟨now, poll.value⟩] }

/-- The tasks with the watchdog beside them. -/
def guarded : Runner (Guarded ρ) where
  run task tick g :=
    let g := { g with inner := l.runner.run task tick g.inner }
    if task = .watchdog then l.check g else g
  pending task g := l.runner.pending task g.inner
  note line g := { g with inner := l.runner.note line g.inner }

/-- The loop over the standard timetable, from the moment at which the watchdog is armed. -/
def course : Course (Guarded ρ) where
  asked := Timetable.standardPlan l.intervals
  runner := l.guarded
  time := l.time
  outside k g :=
    { g with
      inner := l.outside k g.inner
      register := if l.takes k then g.register.take.2 else g.register }
  start := { inner := l.start, supervisor := Supervisor.arm {} (l.clock l.start) l.timeout }

/-- The loop before tick `k`. -/
def before (k : Nat) : Guarded ρ :=
  (l.course.before k).2

/-! ## Late ticks -/

/-- The loop when the watchdog is polled in tick `k`.  Its slot is the one at place 8. -/
def arrival (k : Nat) : Guarded ρ :=
  let g := l.course.turn 8 k
  { g with inner := l.runner.run .watchdog (l.course.tick k) g.inner }

/-- When the watchdog is polled in tick `k`. -/
def polled (k : Nat) : Nat :=
  l.clock (l.arrival k).inner

/-- When the watchdog was last fed before tick `k`, which is at the end of the tick before, or when it
was armed. -/
def fed (k : Nat) : Nat :=
  l.clock (l.before k).inner

/-- In tick `k` the watchdog is polled more than the timeout after it was fed or armed. -/
def Late (k : Nat) : Prop :=
  l.timeout.toNat * 1000 < l.polled k - l.fed k

/-- A tick before tick `k` was late. -/
def Stalled (k : Nat) : Prop :=
  ∃ j, j < k ∧ l.Late j

instance (k : Nat) : Decidable (l.Late k) :=
  inferInstanceAs (Decidable (_ < _))

instance (k : Nat) : Decidable (l.Stalled k) :=
  inferInstanceAs (Decidable (∃ j, j < k ∧ l.Late j))

theorem stalled_succ (k : Nat) : l.Stalled (k + 1) ↔ l.Stalled k ∨ l.Late k := by
  simp only [Stalled, Nat.lt_succ_iff_lt_or_eq, or_and_right, exists_or, exists_eq_left]

variable {l} in
theorem Stalled.mono {j k : Nat} (h : l.Stalled j) (hle : j ≤ k) : l.Stalled k := by
  obtain ⟨i, hi, hlate⟩ := h
  exact ⟨i, hi.trans_le hle, hlate⟩

/-! ## One tick -/

theorem table_eq : l.course.table = Timetable.standardPlan l.intervals := by
  rw [Course.table_eq]
  rfl

/-- The watchdog task is the last one of every tick. -/
theorem before_succ (k : Nat) : l.before (k + 1) = l.check (l.arrival k) := by
  have hlength : l.course.table.length = 8 + 1 := by
    rw [table_eq]
    rfl
  have hlast : l.course.table[8]? = some (.watchdog, .everyTick) := by
    rw [table_eq]
    rfl
  exact l.course.before_succ_of_last hlength hlast k

/-- The other tasks touch neither the watchdog nor what it recorded. -/
theorem arrival_eq (k : Nat) :
    (l.arrival k).supervisor = (l.before k).supervisor ∧
      (l.arrival k).register =
        (if l.takes k then (l.before k).register.take.2 else (l.before k).register) ∧
      (l.arrival k).polls = (l.before k).polls := by
  let g := l.course.outside k (l.before k)
  have hturn : (l.course.turn 8 k).supervisor = g.supervisor ∧
      (l.course.turn 8 k).register = g.register ∧ (l.course.turn 8 k).polls = g.polls := by
    refine l.course.turn_keeps (P := fun r =>
      r.supervisor = g.supervisor ∧ r.register = g.register ∧ r.polls = g.polls)
      ⟨rfl, rfl, rfl⟩ (fun line r hr => hr) fun p hp r hr => ?_
    have htask : p.1 ≠ .watchdog := by
      rw [table_eq] at hp
      have hmem := List.mem_map_of_mem (f := Prod.fst) hp
      rintro heq
      rw [heq] at hmem
      simp [Timetable.standardPlan] at hmem
    have hrun : l.course.runner.run p.1 (l.course.tick k) r =
        { r with inner := l.runner.run p.1 (l.course.tick k) r.inner } := if_neg htask
    rw [hrun]
    exact hr
  exact hturn

/-! ## The invariant -/

/-- The reason that a take of the register gives before tick `k`. -/
def reason (k : Nat) : Option ResetReason :=
  (l.before k).register.take.1

/-- Until a tick was late the watchdog knows when it was fed.  Then it is expired, and the register
tells until the reason is taken. -/
structure Steady (k : Nat) : Prop where
  timely : ¬l.Stalled k →
    (l.before k).supervisor = { timeout := l.timeout.toNat * 1000, lastFeed := some (l.fed k) } ∧
      l.reason k = none
  stalled : l.Stalled k →
    (∃ last, (l.before k).supervisor.lastFeed = some last) ∧
      (l.before k).supervisor.expired = true ∧
      l.reason k =
        if ∀ m < k, l.takes m = true → ¬l.Stalled m then some .watchdog else none

/-- What the poll in tick `k` does. -/
def look (k : Nat) : Outcome (Supervisor × ResetRegister) WatchdogStatus :=
  (l.arrival k).supervisor.poll (l.arrival k).register (l.polled k)

section Step

variable {l} {k : Nat}

theorem Steady.look_cases (h : l.Steady k) :
    (l.Stalled k ∧ l.look k =
        { value := .expired, state := ((l.before k).supervisor, (l.arrival k).register) }) ∨
      (¬l.Stalled k ∧ l.Late k ∧ l.look k =
        { value := .expired
          state := ({ (l.before k).supervisor with expired := true },
            (l.arrival k).register.record .watchdog)
          log := [Supervisor.expiryLine] }) ∨
      (¬l.Stalled k ∧ ¬l.Late k ∧ l.look k =
        { value := .ok, state := ((l.before k).supervisor, (l.arrival k).register) }) := by
  rw [look, (l.arrival_eq k).1]
  by_cases hstalled : l.Stalled k
  · obtain ⟨⟨last, hlast⟩, hexpired, _⟩ := h.stalled hstalled
    exact Or.inl ⟨hstalled, Supervisor.poll_of_expired hlast hexpired⟩
  · obtain ⟨hsupervisor, _⟩ := h.timely hstalled
    have hlast : (l.before k).supervisor.lastFeed = some (l.fed k) := by rw [hsupervisor]
    have hexpired : (l.before k).supervisor.expired = false := by rw [hsupervisor]
    have htimeout : (l.before k).supervisor.timeout = l.timeout.toNat * 1000 := by rw [hsupervisor]
    by_cases hlate : l.Late k
    · refine Or.inr (Or.inl ⟨hstalled, hlate, Supervisor.poll_of_late hlast hexpired ?_⟩)
      rwa [htimeout]
    · refine Or.inr (Or.inr ⟨hstalled, hlate, Supervisor.poll_of_timely hlast hexpired ?_⟩)
      rwa [htimeout]

/-- The register that the watchdog meets in tick `k` is empty after a take. -/
theorem arrival_recorded (l : SupervisedLoop ρ) (k : Nat) :
    (l.arrival k).register.recorded = if l.takes k then none else l.reason k := by
  rw [(l.arrival_eq k).2.1]
  split <;> rfl

theorem supervisor_succ (l : SupervisedLoop ρ) (k : Nat) :
    (l.before (k + 1)).supervisor =
      if (l.look k).value = .expired then (l.look k).state.1
      else (l.look k).state.1.feed (l.fed (k + 1)) := by
  rw [fed, before_succ]
  rfl

theorem reason_succ (l : SupervisedLoop ρ) (k : Nat) :
    l.reason (k + 1) = (l.look k).state.2.recorded := by
  rw [reason, before_succ]
  rfl

/-- One tick. -/
theorem Steady.succ (h : l.Steady k) : l.Steady (k + 1) := by
  rcases h.look_cases with ⟨hstalled, hlook⟩ | ⟨hstalled, hlate, hlook⟩ | ⟨hstalled, hlate, hlook⟩
  · have hnext : l.Stalled (k + 1) := hstalled.mono (Nat.le_succ k)
    refine ⟨fun hnot => absurd hnext hnot, fun _ => ?_⟩
    obtain ⟨hlast, hexpired, hreason⟩ := h.stalled hstalled
    rw [supervisor_succ, reason_succ, hlook, if_pos rfl, arrival_recorded, hreason]
    refine ⟨hlast, hexpired, ?_⟩
    simp only [Nat.lt_succ_iff_lt_or_eq, or_imp, forall_and, forall_eq]
    cases l.takes k <;> simp [hstalled]
  · have hnext : l.Stalled (k + 1) := (l.stalled_succ k).mpr (Or.inr hlate)
    refine ⟨fun hnot => absurd hnext hnot, fun _ => ?_⟩
    obtain ⟨hsupervisor, _⟩ := h.timely hstalled
    rw [supervisor_succ, reason_succ, hlook, if_pos rfl]
    refine ⟨⟨l.fed k, by rw [hsupervisor]⟩, rfl, ?_⟩
    refine (if_pos fun m hm _ hearly => ?_).symm
    exact hstalled (hearly.mono (Nat.le_of_lt_succ hm))
  · have hnext : ¬l.Stalled (k + 1) := by
      rw [stalled_succ]
      exact not_or.mpr ⟨hstalled, hlate⟩
    refine ⟨fun _ => ?_, fun hthen => absurd hthen hnext⟩
    obtain ⟨hsupervisor, hreason⟩ := h.timely hstalled
    rw [supervisor_succ, reason_succ, hlook, arrival_recorded, hreason, hsupervisor]
    refine ⟨rfl, ?_⟩
    split <;> rfl

theorem steady_before (l : SupervisedLoop ρ) (k : Nat) : l.Steady k := by
  induction k with
  | zero =>
    have hnone : ¬l.Stalled 0 := fun ⟨j, hj, _⟩ => absurd hj (Nat.not_lt_zero j)
    exact ⟨fun _ => ⟨rfl, rfl⟩, fun h => absurd h hnone⟩
  | succ k ih => exact ih.succ

/-- The poll in a tick reports that the watchdog expired just in case that tick or one before it was
late. -/
theorem look_value (l : SupervisedLoop ρ) (k : Nat) :
    (l.look k).value = if l.Stalled (k + 1) then .expired else .ok := by
  have hsucc := l.stalled_succ k
  rcases (l.steady_before k).look_cases with
    ⟨hstalled, hlook⟩ | ⟨_, hlate, hlook⟩ | ⟨hstalled, hlate, hlook⟩
  · rw [hlook, if_pos (hsucc.mpr (Or.inl hstalled))]
  · rw [hlook, if_pos (hsucc.mpr (Or.inr hlate))]
  · rw [hlook, if_neg (mt hsucc.mp (not_or.mpr ⟨hstalled, hlate⟩))]

theorem polls_succ (l : SupervisedLoop ρ) (k : Nat) :
    (l.before (k + 1)).polls = (l.before k).polls ++ [⟨l.polled k, (l.look k).value⟩] := by
  rw [before_succ, ← (l.arrival_eq k).2.2]
  rfl

end Step

/-! ## The main result -/

/-- A loop over the standard timetable, with any intervals, any times of its ticks, any tasks and any
clock.  The watchdog is polled once in every tick.  It reports that it expired from the first late
tick on, and never before.  The register gives no reason before that tick, and after it one take
gives the watchdog and all later takes give none. -/
theorem expires_on_stall (k : Nat) :
    ((l.before k).polls =
        (List.range k).map fun j =>
          ⟨l.polled j, if l.Stalled (j + 1) then .expired else .ok⟩) ∧
      (l.reason k =
        if l.Stalled k ∧ ∀ m < k, l.takes m = true → ¬l.Stalled m then some .watchdog else none) ∧
      (l.before k).register.take.2.take.1 = none := by
  refine ⟨?_, ?_, rfl⟩
  · induction k with
    | zero => rfl
    | succ k ih =>
      rw [polls_succ, ih, look_value, List.range_succ, List.map_append]
      rfl
  · by_cases hstalled : l.Stalled k
    · rw [(l.steady_before k).stalled hstalled |>.2.2]
      simp [hstalled]
    · rw [(l.steady_before k).timely hstalled |>.2]
      simp [hstalled]

end SupervisedLoop

end FanBoard
