import FanBoard.Proofs.Timetable.Course
import Mathlib.Algebra.GroupWithZero.Nat

/-!
# How often a task ran

A table may hold a task more than once, and every slot counts its own runs.

* `runsIn_visitAll`: in a pass the slots of a task run once for each call with the task.
* `runsIn_before`: before any tick, the slots of a task have together run as often as the task was
  called.
* `runs_pos`: after the first tick every slot has run.
* `runsOf_eq_iff`: the count of a task is the count of its first slot, so it misses the runs of
  every other one.
* `runsOf_eq_called_iff` is the result for a whole course.
-/

namespace FanBoard

variable {ρ : Type}

/-- How many of the calls are calls with a task. -/
def callsWith (task : Task) (calls : List RunCall) : Nat :=
  calls.countP fun call => call.task == task

namespace Timetable

/-- The slots of a task. -/
def slotsOf (task : Task) (slots : List Slot) : List Slot :=
  slots.filter fun s => s.task == task

/-- How often the slots of a task have run, all together. -/
def runsIn (task : Task) (slots : List Slot) : Nat :=
  ((slotsOf task slots).map Slot.runs).sum

/-! ## A pass -/

theorem runsIn_cons (task : Task) (s : Slot) (slots : List Slot) :
    runsIn task (s :: slots) = (if s.task = task then s.runs else 0) + runsIn task slots := by
  by_cases h : s.task = task <;> simp [runsIn, slotsOf, h]

/-- A visit counts its call. -/
theorem runs_visit (task : Task) (s : Slot) (runner : Runner ρ) (tick : Tick) (r : ρ) :
    (if (s.visit runner tick r).1.task = task then (s.visit runner tick r).1.runs else 0) =
      (if s.task = task then s.runs else 0) + callsWith task (s.calls runner tick r) := by
  rw [Slot.calls_eq, Slot.visit]
  split
  · by_cases h : s.task = task <;> simp [callsWith, h]
  · simp [callsWith]

/-- In a pass the slots of a task run once for each call with the task. -/
theorem runsIn_visitAll (task : Task) (runner : Runner ρ) (tick : Tick) (slots : List Slot)
    (r : ρ) :
    runsIn task (visitAll runner tick slots r).1 =
      runsIn task slots +
        callsWith task ((List.range slots.length).flatMap (turnCalls runner tick slots r)) := by
  induction slots generalizing r with
  | nil => rfl
  | cons s slots ih =>
    have hfirst : turnCalls runner tick (s :: slots) r 0 = s.calls runner tick r := rfl
    have hcalls : callsWith task
        ((List.range (s :: slots).length).flatMap (turnCalls runner tick (s :: slots) r)) =
          callsWith task (s.calls runner tick r) + callsWith task ((List.range slots.length).flatMap
            (turnCalls runner tick slots (s.visit runner tick r).2)) := by
      simp only [callsWith, List.length_cons, List.range_succ_eq_map, List.flatMap_cons,
        List.flatMap_map, turnCalls_cons_succ, hfirst, List.countP_append]
    rw [hcalls, runsIn_cons, visitAll, runsIn_cons, runs_visit, ih]
    omega

/-! ## The first slot of a task -/

theorem sum_runs_eq_zero_iff (slots : List Slot) :
    (slots.map Slot.runs).sum = 0 ↔ ∀ s ∈ slots, s.runs = 0 := by
  simp only [List.sum_eq_zero_iff_forall_eq_nat, List.forall_mem_map]

theorem runsOf_eq_head (t : Timetable) (task : Task) :
    t.runsOf task = ((slotsOf task t.slots).head?.map Slot.runs).getD 0 := by
  rw [slotsOf, List.head?_filter, runsOf]
  cases t.slots.find? fun s => s.task == task <;> rfl

/-- The count of a task misses the runs of all its slots but the first. -/
theorem runsOf_eq_iff (t : Timetable) (task : Task) :
    t.runsOf task = runsIn task t.slots ↔
      ∀ s ∈ (slotsOf task t.slots).tail, s.runs = 0 := by
  rw [runsOf_eq_head, runsIn]
  cases slotsOf task t.slots with
  | nil => simp
  | cons s others =>
    rw [List.tail_cons, ← sum_runs_eq_zero_iff, List.map_cons, List.sum_cons]
    simp only [List.head?_cons, Option.map_some, Option.getD_some]
    omega

end Timetable

namespace Course

open Timetable (slotsOf runsIn)

variable (c : Course ρ)

/-- How often a task was called in the ticks before tick `k`. -/
def called (task : Task) (k : Nat) : Nat :=
  callsWith task ((List.range k).flatMap c.calls)

theorem called_succ (task : Task) (k : Nat) :
    c.called task (k + 1) = c.called task k + callsWith task (c.calls k) := by
  simp [called, callsWith, List.range_succ]

theorem runs_before_zero {s : Slot} (hs : s ∈ (c.before 0).1.slots) : s.runs = 0 := by
  rw [before, Timetable.addAll_slots_take, List.nil_append] at hs
  obtain ⟨p, _, rfl⟩ := List.mem_map.mp hs
  rfl

/-- The slots of a task have together run as often as the task was called. -/
theorem runsIn_before (task : Task) (k : Nat) :
    runsIn task (c.before k).1.slots = c.called task k := by
  induction k with
  | zero =>
    refine (Timetable.sum_runs_eq_zero_iff _).mpr fun s hs => ?_
    exact c.runs_before_zero (List.mem_filter.mp hs).1
  | succ k ih =>
    have hslots : (c.before (k + 1)).1.slots =
        (Timetable.visitAll c.runner (c.tick k) (c.before k).1.slots (c.begun k)).1 := rfl
    have hcalls : c.calls k = (List.range (c.before k).1.slots.length).flatMap
        (Timetable.turnCalls c.runner (c.tick k) (c.before k).1.slots (c.begun k)) :=
      Timetable.tick_calls _ _ _ _
    rw [hslots, Timetable.runsIn_visitAll, ih, called_succ, hcalls]

variable {c} in
/-- Every slot runs in the first tick. -/
theorem fires_zero {i : Nat} {task : Task} {cadence : Cadence}
    (h : c.table[i]? = some (task, cadence)) : c.Fires i 0 := by
  obtain ⟨s, hs, _, _⟩ := exists_slot h 0
  have hmem := List.mem_of_getElem? hs
  rw [before, Timetable.addAll_slots_take, List.nil_append] at hmem
  obtain ⟨p, _, rfl⟩ := List.mem_map.mp hmem
  rw [fires_iff_isDue hs, Slot.isDue]
  cases p.2 with
  | every ms => rfl
  | pendingOrEvery ms => exact Bool.or_true _
  | everyTick => rfl

/-- After the first tick every slot has run. -/
theorem runs_pos {k : Nat} {s : Slot} (hs : s ∈ (c.before (k + 1)).1.slots) : 0 < s.runs := by
  obtain ⟨i, hi⟩ := List.mem_iff_getElem?.mp hs
  have hplan : c.table[i]? = some s.plan := by
    rw [← c.before_plan (k + 1), Timetable.plan, List.getElem?_map, hi, Option.map_some]
  rw [(slot_remembers hi).runs, List.countP_pos_iff]
  exact ⟨0, List.mem_range.mpr (Nat.succ_pos k), decide_eq_true (fires_zero hplan)⟩

theorem length_slotsOf (task : Task) (k : Nat) :
    (slotsOf task (c.before k).1.slots).length = (c.table.map Prod.fst).count task := by
  rw [← c.before_plan k, Timetable.plan, List.map_map, List.count, List.countP_map,
    List.countP_eq_length_filter]
  rfl

/-- Before tick `k` the slots of a task have together run as often as the task was called.  The
count of the task is that exactly if no tick has come, or if the table holds the task at most
once. -/
theorem runsOf_eq_called_iff (task : Task) (k : Nat) :
    runsIn task (c.before k).1.slots = c.called task k ∧
      ((c.before k).1.runsOf task = c.called task k ↔
        k = 0 ∨ (c.table.map Prod.fst).count task ≤ 1) := by
  refine ⟨c.runsIn_before task k, ?_⟩
  rw [← c.runsIn_before, Timetable.runsOf_eq_iff, ← c.length_slotsOf task k]
  cases k with
  | zero =>
    refine iff_of_true (fun s hs => ?_) (Or.inl rfl)
    exact c.runs_before_zero (List.mem_filter.mp (List.mem_of_mem_tail hs)).1
  | succ k =>
    have hrun : ∀ s ∈ slotsOf task (c.before (k + 1)).1.slots, 0 < s.runs := fun s hs =>
      c.runs_pos (List.mem_filter.mp hs).1
    cases hslots : slotsOf task (c.before (k + 1)).1.slots with
    | nil => simp
    | cons first others =>
      rw [hslots] at hrun
      cases others with
      | nil => simp
      | cons second others =>
        have hsecond : 0 < second.runs := hrun second (by simp)
        refine iff_of_false (fun hnone => ?_) (by simp)
        exact absurd (hnone second (by simp)) (Nat.ne_of_gt hsecond)

/-- A task every second and in every tick, and another one. -/
def twice : Course Unit where
  asked := [(.display, .every 1000), (.display, .everyTick), (.statusLed, .every 1000)]
  runner := { run := fun _ _ _ => (), pending := fun _ _ => false, note := fun _ _ => () }
  time k := k
  start := ()

/-- Two ticks call the task three times, and its count is one. -/
theorem runsOf_of_twice :
    (twice.before 2).1.runsOf .display = 1 ∧ twice.called .display 2 = 3 := by
  decide

end Course

end FanBoard
