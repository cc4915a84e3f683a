import FanBoard.Proofs.Timetable.Visit

/-!
# The turn of a slot

In a pass over the slots every slot has one turn.  `turn` is the state of the runner at that moment:
the slots before it have had theirs.  `Runner.recorded` keeps the calls that a runner gets, so what a
turn does is told by its calls.

* `Slot.calls_eq`: a slot that is due makes one call, and another makes none.
* `visitAll_calls`: the calls of a pass are the calls of the turns in order.
* `visitAll_getElem?`: what a pass makes of a slot is what its turn makes of it.
-/

namespace FanBoard

variable {ρ : Type}

/-! ## Keeping the calls -/

/-- A call of a runner. -/
structure RunCall where
  task : Task
  tick : Tick
deriving DecidableEq

/-- The state of a runner and the calls that it got. -/
structure Called (ρ : Type) where
  state : ρ
  calls : List RunCall := []

/-- The same runner with its calls kept. -/
def Runner.recorded (runner : Runner ρ) : Runner (Called ρ) where
  run task tick r := ⟨runner.run task tick r.state, r.calls ++ [⟨task, tick⟩]⟩
  pending task r := runner.pending task r.state
  note line r := { r with state := runner.note line r.state }

theorem Runner.recorded_hom (runner : Runner ρ) : runner.recorded.Hom runner Called.state where
  run _ _ _ := rfl
  pending _ _ := rfl
  note _ _ := rfl

namespace Slot

variable (s : Slot) (runner : Runner ρ) (tick : Tick)

/-- The calls that a visit makes. -/
def calls (r : ρ) : List RunCall :=
  (s.visit runner.recorded tick { state := r }).2.calls

theorem calls_eq (r : ρ) :
    s.calls runner tick r = if s.isDue runner tick.now r then [⟨s.task, tick⟩] else [] := by
  have hdue : s.isDue runner.recorded tick.now { state := r } = s.isDue runner tick.now r := rfl
  unfold calls visit
  rw [hdue]
  split <;> rfl

theorem visit_recorded_calls (r : Called ρ) :
    (s.visit runner.recorded tick r).2.calls = r.calls ++ s.calls runner tick r.state := by
  have hdue : s.isDue runner.recorded tick.now r = s.isDue runner tick.now r.state := rfl
  rw [calls_eq]
  unfold visit
  rw [hdue]
  split
  · rfl
  · rw [List.append_nil]

theorem visit_recorded_state (r : Called ρ) :
    (s.visit runner.recorded tick r).2.state = (s.visit runner tick r.state).2 :=
  (congrArg Prod.snd (Timetable.visit_hom runner.recorded_hom tick s r)).symm

end Slot

namespace Timetable

/-! ## The turns of a pass -/

section Pass

variable (runner : Runner ρ) (tick : Tick)

/-- The state of the runner when the slot at a place has its turn. -/
def turn (slots : List Slot) (r : ρ) (i : Nat) : ρ :=
  (visitAll runner tick (slots.take i) r).2

/-- The calls in the turn of the slot at a place. -/
def turnCalls (slots : List Slot) (r : ρ) (i : Nat) : List RunCall :=
  match slots[i]? with
  | some s => s.calls runner tick (turn runner tick slots r i)
  | none => []

theorem turn_cons_succ (s : Slot) (slots : List Slot) (r : ρ) (i : Nat) :
    turn runner tick (s :: slots) r (i + 1) =
      turn runner tick slots (s.visit runner tick r).2 i := rfl

theorem turnCalls_cons_succ (s : Slot) (slots : List Slot) (r : ρ) (i : Nat) :
    turnCalls runner tick (s :: slots) r (i + 1) =
      turnCalls runner tick slots (s.visit runner tick r).2 i := by
  simp only [turnCalls, List.getElem?_cons_succ, turn_cons_succ]

/-- The calls of a pass are the calls of the turns in order. -/
theorem visitAll_calls (slots : List Slot) (r : Called ρ) :
    (visitAll runner.recorded tick slots r).2.calls =
      r.calls ++ (List.range slots.length).flatMap (turnCalls runner tick slots r.state) := by
  induction slots generalizing r with
  | nil => simp [visitAll]
  | cons s slots ih =>
    have hfirst : turnCalls runner tick (s :: slots) r.state 0 = s.calls runner tick r.state := rfl
    simp only [visitAll, ih, Slot.visit_recorded_calls, Slot.visit_recorded_state,
      List.length_cons, List.range_succ_eq_map, List.flatMap_cons, List.flatMap_map, hfirst,
      turnCalls_cons_succ, List.append_assoc]

/-- The calls of a pass come in the order of the slots, at most one from each slot. -/
theorem turnCalls_sublist (slots : List Slot) (r : ρ) :
    (((List.range slots.length).flatMap (turnCalls runner tick slots r)).map RunCall.task).Sublist
      (slots.map Slot.task) := by
  induction slots generalizing r with
  | nil => exact List.Sublist.refl _
  | cons s slots ih =>
    have hfirst : turnCalls runner tick (s :: slots) r 0 = s.calls runner tick r := rfl
    have hrest := ih (s.visit runner tick r).2
    simp only [List.length_cons, List.range_succ_eq_map, List.flatMap_cons, List.flatMap_map,
      turnCalls_cons_succ, hfirst, List.map_append, List.map_cons, Slot.calls_eq]
    split
    · exact hrest.cons_cons s.task
    · exact hrest.cons s.task

/-- What a pass makes of a slot is what its turn makes of it. -/
theorem visitAll_getElem? (slots : List Slot) (r : ρ) (i : Nat) :
    (visitAll runner tick slots r).1[i]? =
      slots[i]?.map fun s => (s.visit runner tick (turn runner tick slots r i)).1 := by
  induction slots generalizing r i with
  | nil => rfl
  | cons s slots ih =>
    cases i with
    | zero => rfl
    | succ i =>
      simp only [visitAll, List.getElem?_cons_succ, turn_cons_succ]
      exact ih _ i

end Pass

/-! ## The pass of a tick -/

/-- What the tasks of a tick at `now` are told. -/
def tickAt (t : Timetable) (now : Nat) : Tick :=
  (t.count now).current now

/-- The state of the runner when the pass of a tick begins. -/
def begun (t : Timetable) (runner : Runner ρ) (now : Nat) (r : ρ) : ρ :=
  if t.maxLoop < (t.count now).maxLoop then runner.note (maxLoopLine (t.count now).maxLoop) r
  else r

theorem tick_slots (t : Timetable) (runner : Runner ρ) (now : Nat) (r : ρ) :
    (t.tick runner now r).1.slots =
      (visitAll runner (t.tickAt now) t.slots (t.begun runner now r)).1 := rfl

theorem tick_calls (t : Timetable) (runner : Runner ρ) (now : Nat) (r : ρ) :
    (t.tick runner.recorded now { state := r }).2.calls =
      (List.range t.slots.length).flatMap
        (turnCalls runner (t.tickAt now) t.slots (t.begun runner now r)) := by
  have hbegun : t.begun runner.recorded now { state := r } = { state := t.begun runner now r } := by
    unfold begun
    split <;> rfl
  show (visitAll runner.recorded (t.tickAt now) t.slots
    (t.begun runner.recorded now { state := r })).2.calls = _
  rw [hbegun, visitAll_calls, List.nil_append]

end Timetable

end FanBoard
