import FanBoard.Timetable.Basic

/-!
# A tick slot by slot

A tick visits the slots in order.  It can be cut at any slot (`visitAll_append`), it leaves the tasks
and the cadences of the slots alone (`visitAll_plan`), and what the tasks keep, it keeps
(`visitAll_keeps`).  Runners that do alike, up to a function between their states, tick alike up to
that function (`ticks_hom`).
-/

namespace FanBoard

variable {ρ : Type}

/-- The task and the cadence of a slot. -/
def Slot.plan (s : Slot) : Task × Cadence :=
  (s.task, s.cadence)

@[simp] theorem Slot.visit_plan (s : Slot) (runner : Runner ρ) (tick : Tick) (r : ρ) :
    (s.visit runner tick r).1.plan = s.plan := by
  unfold visit
  split <;> rfl

namespace Timetable

/-- The tasks and the cadences in the order of the slots. -/
def plan (t : Timetable) : List (Task × Cadence) :=
  t.slots.map Slot.plan

theorem visitAll_append (runner : Runner ρ) (tick : Tick) (front back : List Slot) (r : ρ) :
    visitAll runner tick (front ++ back) r =
      let first := visitAll runner tick front r
      let second := visitAll runner tick back first.2
      (first.1 ++ second.1, second.2) := by
  induction front generalizing r with
  | nil => rfl
  | cons s front ih => simp only [List.cons_append, visitAll, ih]

@[simp] theorem visitAll_plan (runner : Runner ρ) (tick : Tick) (slots : List Slot) (r : ρ) :
    (visitAll runner tick slots r).1.map Slot.plan = slots.map Slot.plan := by
  induction slots generalizing r with
  | nil => rfl
  | cons s slots ih => simp only [visitAll, List.map_cons, Slot.visit_plan, ih]

/-- What every task of the slots keeps, a pass over the slots keeps. -/
theorem visitAll_keeps {P : ρ → Prop} {runner : Runner ρ} {tick : Tick} {slots : List Slot}
    (hrun : ∀ s ∈ slots, ∀ r, P r → P (runner.run s.task tick r)) {r : ρ} (h : P r) :
    P (visitAll runner tick slots r).2 := by
  induction slots generalizing r with
  | nil => exact h
  | cons s slots ih =>
    have hs : P (s.visit runner tick r).2 := by
      unfold Slot.visit
      split
      · exact hrun s (List.mem_cons_self) r h
      · exact h
    exact ih (fun s' hs' => hrun s' (List.mem_cons_of_mem s hs')) hs

@[simp] theorem tick_plan (t : Timetable) (runner : Runner ρ) (now : Nat) (r : ρ) :
    (t.tick runner now r).1.plan = t.plan :=
  visitAll_plan runner _ t.slots _

/-- Slots are added at the end as long as there is room, and their tasks have not run. -/
theorem addAll_slots_take (t : Timetable) (plan : List (Task × Cadence)) :
    (t.addAll plan).state.slots =
      t.slots ++ (plan.take (capacity - t.slots.length)).map
        fun p => { task := p.1, cadence := p.2 } := by
  induction plan generalizing t with
  | nil => simp [addAll]
  | cons p plan ih =>
    simp only [addAll, ih]
    by_cases hroom : t.slots.length < capacity
    · have hadd : (t.add p.1 p.2).state.slots = t.slots ++ [{ task := p.1, cadence := p.2 }] := by
        simp [add, hroom]
      have hleft : capacity - t.slots.length = capacity - (t.slots.length + 1) + 1 := by omega
      rw [hadd, List.length_append, List.length_singleton, hleft, List.take_succ_cons,
        List.map_cons, List.append_assoc, List.cons_append, List.nil_append]
    · have hadd : (t.add p.1 p.2).state.slots = t.slots := by simp [add, hroom]
      have hleft : capacity - t.slots.length = 0 := by omega
      rw [hadd, hleft, List.take_zero, List.take_zero]

/-- Where there is room for all of them, all slots are added. -/
theorem addAll_slots (t : Timetable) (plan : List (Task × Cadence))
    (h : t.slots.length + plan.length ≤ capacity) :
    (t.addAll plan).state.slots = t.slots ++ plan.map fun p => { task := p.1, cadence := p.2 } := by
  rw [addAll_slots_take, List.take_of_length_le (by omega)]

/-- The slots of the standard timetable before its first tick. -/
theorem standard_slots (i : Intervals) :
    (standard i).state.slots =
      (standardPlan i).map fun p => { task := p.1, cadence := p.2 } :=
  addAll_slots {} (standardPlan i) (by simp [standardPlan, capacity])

theorem standard_plan (i : Intervals) : (standard i).state.plan = standardPlan i := by
  simp [plan, standard_slots, Slot.plan, Function.comp_def]

end Timetable

/-! ## Runners that do alike -/

/-- The second runner does on the image of a state what the first one does on the state. -/
structure Runner.Hom {ρ' : Type} (runner : Runner ρ) (runner' : Runner ρ') (f : ρ → ρ') : Prop where
  run : ∀ task tick r, runner'.run task tick (f r) = f (runner.run task tick r)
  pending : ∀ task r, runner'.pending task (f r) = runner.pending task r
  note : ∀ line r, runner'.note line (f r) = f (runner.note line r)

namespace Timetable

variable {ρ' : Type} {runner : Runner ρ} {runner' : Runner ρ'} {f : ρ → ρ'}

theorem visit_hom (h : runner.Hom runner' f) (tick : Tick) (s : Slot) (r : ρ) :
    s.visit runner' tick (f r) = ((s.visit runner tick r).1, f (s.visit runner tick r).2) := by
  have hdue : s.isDue runner' tick.now (f r) = s.isDue runner tick.now r := by
    simp only [Slot.isDue, h.pending]
  simp only [Slot.visit, hdue]
  split
  · rw [h.run]
  · rfl

theorem visitAll_hom (h : runner.Hom runner' f) (tick : Tick) (slots : List Slot) (r : ρ) :
    visitAll runner' tick slots (f r) =
      ((visitAll runner tick slots r).1, f (visitAll runner tick slots r).2) := by
  induction slots generalizing r with
  | nil => rfl
  | cons s slots ih => simp only [visitAll, visit_hom h, ih]

theorem tick_hom (h : runner.Hom runner' f) (t : Timetable) (now : Nat) (r : ρ) :
    t.tick runner' now (f r) = ((t.tick runner now r).1, f (t.tick runner now r).2) := by
  simp only [tick]
  split
  · rw [h.note, visitAll_hom h]
  · rw [visitAll_hom h]

/-- Runners that do alike tick alike. -/
theorem ticks_hom (h : runner.Hom runner' f) (t : Timetable) (times : List Nat) (r : ρ) :
    t.ticks runner' times (f r) = ((t.ticks runner times r).1, f (t.ticks runner times r).2) := by
  induction times generalizing t r with
  | nil => rfl
  | cons now times ih =>
    simp only [ticks, List.foldl_cons, tick_hom h]
    exact ih _ _

end Timetable

end FanBoard
