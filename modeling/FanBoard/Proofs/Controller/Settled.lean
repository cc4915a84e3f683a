import FanBoard.Bench.ProbeBoard
import FanBoard.Proofs.Controller.Pass
import FanBoard.Proofs.Controller.Recording
import FanBoard.Proofs.Controller.Undisturbed
import FanBoard.Proofs.Timetable.Visit

/-!
# The outputs are in step after every tick

The standard timetable samples the inputs, then updates the outputs, then serves the terminal and the
watchdog.  After every tick no input change is left over, and every output agrees with its target, or
the board refused its value in the most recent pass over the outputs.

The board may do anything and may fail in any way.  Between two tasks the other core may do anything
to what the cores share.

* `InStep` is what holds after a tick.
* The tasks before the output update may break it, but then they note a change, and the output update
  has work.  If it has none, nothing was disturbed (`InStep.of_noticed`).
* `tick_inStep` is one tick, `ticks_inStep` a run, and `outputs_in_step` the result for the standard
  timetable from its first tick on.
-/

namespace FanBoard

variable {β : Type}

namespace Controller

/-! ## Runners -/

/-- The controller as a runner beside the other core, which does `outside` to what the cores share
before each task of a tick. -/
def runnerAmid (outside : Nat → Task → Shared → Shared) (w : Wiring β) : Runner (Controller β) :=
  { runner w with
    run := fun task tick c =>
      { c with shared := outside tick.iteration task c.shared }.runTask w task tick }

/-- The controller with no output call kept. -/
def forgetCalls (c : Controller (Recorded β)) : Controller (Recorded β) :=
  { c with board := { c.board with calls := [] } }

/-- The same runner on the board that keeps the output calls since the most recent pass over the
outputs began. -/
def runnerKeepingPass (outside : Nat → Task → Shared → Shared) (w : Wiring β) :
    Runner (Controller (Recorded β)) :=
  { runnerAmid outside w.recorded with
    run := fun task tick c =>
      (runnerAmid outside w.recorded).run task tick
        (if task = .outputUpdate then c.forgetCalls else c) }

section Run

variable (outside : Nat → Task → Shared → Shared) (w : Wiring β) (tick : Tick)
  (c : Controller (Recorded β))

theorem runnerKeepingPass_run_of_ne {task : Task} (htask : task ≠ .outputUpdate) :
    (runnerKeepingPass outside w).run task tick c =
      { c with shared := outside tick.iteration task c.shared }.runTask w.recorded task tick := by
  simp only [runnerKeepingPass, runnerAmid, if_neg htask]

/-- The output update is a pass over the outputs with the same settings. -/
theorem runnerKeepingPass_run_outputUpdate :
    ∃ c' : Controller (Recorded β), c'.settings = c.settings ∧
      (runnerKeepingPass outside w).run .outputUpdate tick c = c'.updateOutputs w.recorded :=
  ⟨{ c.forgetCalls with
      metrics := c.metrics.observe tick
      shared := outside tick.iteration .outputUpdate c.shared }, rfl, rfl⟩

end Run

/-- Keeping the calls changes nothing that the controller does. -/
theorem runnerKeepingPass_hom (outside : Nat → Task → Shared → Shared) (w : Wiring β) :
    (runnerKeepingPass outside w).Hom (runnerAmid outside w) bare where
  run task tick c := by
    simp only [runnerKeepingPass, runnerAmid, runTask_bare]
    split <;> rfl
  pending _ _ := rfl
  note _ _ := rfl

/-! ## In step -/

/-- No input change is left over, and every output agrees with its target or was refused. -/
structure InStep (k : Curve) (c : Controller (Recorded β)) : Prop where
  clean : c.signals.dirty = false
  settled : ∀ o, c.SettledAt k o

/-- Where nothing was noted, nothing was disturbed. -/
theorem Noticed.undisturbed {c c' : Controller (Recorded β)} (h : c.Noticed c')
    (hclean : c'.signals.dirty = false) : c.Undisturbed c' :=
  ⟨h.settings, h.signals hclean, h.calls⟩

theorem InStep.of_undisturbed {k : Curve} {c c' : Controller (Recorded β)} (h : c.InStep k)
    (hc : c.Undisturbed c') : c'.InStep k where
  clean := by rw [hc.signals, h.clean]
  settled o := by
    refine (h.settled o).imp (fun hwants => ?_) fun ⟨value, f, hmem⟩ => ⟨value, f, ?_⟩
    · rwa [wants, hc.signals, hc.settings]
    · rwa [hc.calls]

/-- What leaves no note keeps the outputs in step. -/
theorem InStep.of_noticed {k : Curve} {c c' : Controller (Recorded β)} (h : c.InStep k)
    (hc : c.Noticed c') (hclean : c'.signals.dirty = false) : c'.InStep k :=
  h.of_undisturbed (hc.undisturbed hclean)

/-! ## The tasks under the runner -/

section Run

variable (outside : Nat → Task → Shared → Shared) (w : Wiring β) (tick : Tick)
  (c : Controller (Recorded β))

theorem noticed_run {task : Task} (htask : task ≠ .outputUpdate) :
    c.Noticed ((runnerKeepingPass outside w).run task tick c) := by
  rw [runnerKeepingPass_run_of_ne outside w tick c htask]
  exact (c.undisturbed_shared _).noticed.trans (noticed_runTask w tick htask _)

theorem undisturbed_run {task : Task}
    (htask : task ∉ [.inputDuty, .temperature, .inputTach, .outputUpdate]) :
    c.Undisturbed ((runnerKeepingPass outside w).run task tick c) := by
  have hne : task ≠ .outputUpdate := by
    rintro rfl
    simp at htask
  rw [runnerKeepingPass_run_of_ne outside w tick c hne]
  exact (c.undisturbed_shared _).trans (undisturbed_runTask w tick htask _)

theorem run_settings (task : Task) :
    ((runnerKeepingPass outside w).run task tick c).settings = c.settings := by
  by_cases htask : task = .outputUpdate
  · obtain ⟨c', hc', hrun⟩ := runnerKeepingPass_run_outputUpdate outside w tick c
    rw [htask, hrun, updateOutputs_settings, hc']
  · exact (noticed_run outside w tick c htask).settings

variable {w c}

/-- A pass puts the outputs in step, whatever the controller was like. -/
theorem run_outputUpdate_inStep (hk : w.curve.ReadsInputs)
    (hpos : c.settings.thresholds.OutputsPositive) :
    ((runnerKeepingPass outside w).run .outputUpdate tick c).InStep w.curve := by
  obtain ⟨c', hc', hrun⟩ := runnerKeepingPass_run_outputUpdate outside w tick c
  rw [hrun]
  exact ⟨updateOutputs_dirty w c', updateOutputs_settledAt w c' hk (by rwa [hc'])⟩

end Run

end Controller

/-! ## Ticks -/

namespace Timetable

open Controller

theorem task_mem_of_plan {slots : List Slot} {plan : List (Task × Cadence)}
    (h : slots.map Slot.plan = plan) {s : Slot} (hs : s ∈ slots) : s.task ∈ plan.map Prod.fst := by
  rw [← h]
  exact List.mem_map_of_mem (List.mem_map_of_mem hs)

/-- The standard timetable around the output update. -/
theorem standardPlan_split {i : Intervals} {slots : List Slot}
    (h : slots.map Slot.plan = standardPlan i) :
    ∃ front output back, slots = front ++ output :: back ∧
      (∀ s ∈ front, s.task ≠ .outputUpdate) ∧
      output.plan = (.outputUpdate, .pendingOrEvery i.outputUpdate) ∧
      ∀ s ∈ back, s.task ∉ [.inputDuty, .temperature, .inputTach, .outputUpdate] := by
  obtain ⟨front, rest, rfl, hfront, hrest⟩ := List.map_eq_append_iff.mp
    (h.trans (List.take_append_drop 6 (standardPlan i)).symm)
  obtain ⟨output, back, rfl, houtput, hback⟩ := List.map_eq_cons_iff.mp hrest
  refine ⟨front, output, back, rfl, fun s hs => ?_, houtput, fun s hs => ?_⟩
  · have htask := task_mem_of_plan hfront hs
    rintro heq
    rw [heq] at htask
    simp [standardPlan] at htask
  · have htask : s.task ∈ [Task.console, .watchdog] := task_mem_of_plan hback hs
    simp only [List.mem_cons, List.not_mem_nil, or_false] at htask
    rcases htask with heq | heq <;> simp [heq]

section Ticks

variable {outside : Nat → Task → Shared → Shared} {w : Wiring β} {i : Intervals}

/-- What a run starts from: either the tasks have not run yet, or the outputs are in step. -/
def Ready (k : Curve) (t : Timetable) (c : Controller (Recorded β)) : Prop :=
  (∀ s ∈ t.slots, s.lastRun = none) ∨ c.InStep k

/-- After the visit to its slot the output update has left the outputs in step.  If it was not due,
nothing had been noted, and it had run before. -/
theorem visit_outputUpdate_inStep {t : Timetable} {s : Slot} {tick : Tick}
    {c c' : Controller (Recorded β)} (hk : w.curve.ReadsInputs)
    (hpos : c.settings.thresholds.OutputsPositive) (hmem : s ∈ t.slots)
    (hplan : s.plan = (.outputUpdate, .pendingOrEvery i.outputUpdate)) (hready : t.Ready w.curve c)
    (hc : c.Noticed c') : (s.visit (runnerKeepingPass outside w) tick c').2.InStep w.curve := by
  obtain ⟨htask, hcadence⟩ := Prod.mk.inj hplan
  simp only [Slot.visit, Slot.isDue, htask, hcadence]
  split
  · exact run_outputUpdate_inStep outside tick hk (by rwa [hc.settings])
  · rename_i hdue
    rw [Bool.or_eq_true, not_or] at hdue
    obtain ⟨hpending, helapsed⟩ := hdue
    have hclean : c'.signals.dirty = false := Bool.eq_false_iff.mpr hpending
    rcases hready with hfresh | hstep
    · exact absurd (by simp [Slot.elapsed, hfresh s hmem]) helapsed
    · exact hstep.of_noticed hc hclean

/-- One tick. -/
theorem tick_inStep {t : Timetable} {c : Controller (Recorded β)} (hk : w.curve.ReadsInputs)
    (hpos : c.settings.thresholds.OutputsPositive) (hplan : t.plan = standardPlan i)
    (hready : t.Ready w.curve c) (now : Nat) :
    (t.tick (runnerKeepingPass outside w) now c).2.InStep w.curve := by
  obtain ⟨front, output, back, hslots, hfront, houtput, hback⟩ := standardPlan_split hplan
  have hmem : output ∈ t.slots := by
    rw [hslots]
    exact List.mem_append_right _ List.mem_cons_self
  simp only [tick, show (t.count now).slots = front ++ output :: back from hslots, visitAll_append,
    visitAll]
  refine visitAll_keeps (P := fun r => InStep w.curve r)
    (fun s hs r hr => hr.of_undisturbed (undisturbed_run outside w _ r (hback s hs))) ?_
  refine visit_outputUpdate_inStep hk hpos hmem houtput hready ?_
  refine visitAll_keeps (P := c.Noticed)
    (fun s hs r hr => hr.trans (noticed_run outside w _ r (hfront s hs))) ?_
  split
  · exact (c.undisturbed_shared _).noticed
  · exact (Undisturbed.refl c).noticed

theorem tick_settings (t : Timetable) (c : Controller (Recorded β)) (now : Nat) :
    (t.tick (runnerKeepingPass outside w) now c).2.settings = c.settings := by
  refine visitAll_keeps (P := fun r => r.settings = c.settings)
    (fun s _ r hr => (run_settings outside w _ r s.task).trans hr) ?_
  split <;> rfl

/-- A run of at least one tick. -/
theorem ticks_inStep {t : Timetable} {c : Controller (Recorded β)} (hk : w.curve.ReadsInputs)
    (hpos : c.settings.thresholds.OutputsPositive) (hplan : t.plan = standardPlan i)
    (hready : t.Ready w.curve c) (now : Nat) (times : List Nat) :
    (t.ticks (runnerKeepingPass outside w) (now :: times) c).2.InStep w.curve := by
  induction times generalizing t c now with
  | nil => exact tick_inStep hk hpos hplan hready now
  | cons next times ih =>
    have hstep : (t.tick (runnerKeepingPass outside w) now c).2.InStep w.curve :=
      tick_inStep hk hpos hplan hready now
    exact ih (by rwa [tick_settings]) ((tick_plan t _ now c).trans hplan) (Or.inr hstep) next

end Ticks

end Timetable

/-! ## The standard timetable -/

namespace Controller

open Timetable

/-- The controller after ticks of the standard timetable at the given times. -/
def afterTicks (outside : Nat → Task → Shared → Shared) (w : Wiring β) (i : Intervals)
    (times : List Nat) (c : Controller β) : Controller β :=
  ((standard i).state.ticks (runnerAmid outside w) times c).2

/-- The same on the board that keeps the output calls since the most recent pass over the outputs
began. -/
def afterTicksKeepingPass (outside : Nat → Task → Shared → Shared) (w : Wiring β) (i : Intervals)
    (times : List Nat) (c : Controller (Recorded β)) : Controller (Recorded β) :=
  ((standard i).state.ticks (runnerKeepingPass outside w) times c).2

theorem standard_ready (k : Curve) (i : Intervals) (c : Controller (Recorded β)) :
    (standard i).state.Ready k c := by
  left
  intro s hs
  rw [standard_slots] at hs
  obtain ⟨p, _, rfl⟩ := List.mem_map.mp hs
  rfl

/-- After every tick of the standard timetable no input change is left over, and every output agrees
with its target, or the board refused its value in the most recent pass over the outputs.  This holds
from any controller, for any intervals, times, board and doings of the other core.  The curve reads
inputs only, and the thresholds of the outputs are positive. -/
theorem outputs_in_step (outside : Nat → Task → Shared → Shared) (w : Wiring β) (i : Intervals)
    (times : List Nat) (c : Controller (Recorded β)) (hk : w.curve.ReadsInputs)
    (hpos : c.settings.thresholds.OutputsPositive) (htimes : times ≠ []) :
    (afterTicksKeepingPass outside w i times c).bare = afterTicks outside w i times c.bare ∧
      (afterTicks outside w i times c.bare).signals.dirty = false ∧
      ∀ o, (afterTicks outside w i times c.bare).wants w.curve o = false ∨
        (afterTicksKeepingPass outside w i times c).board.Refused o := by
  have hbare : (afterTicksKeepingPass outside w i times c).bare =
      afterTicks outside w i times c.bare := by
    rw [afterTicks, ticks_hom (runnerKeepingPass_hom outside w)]
    rfl
  have hstep : (afterTicksKeepingPass outside w i times c).InStep w.curve := by
    obtain ⟨now, rest, rfl⟩ := List.exists_cons_of_ne_nil htimes
    exact ticks_inStep hk hpos (standard_plan i) (standard_ready w.curve i c) now rest
  rw [← hbare]
  exact ⟨rfl, hstep.clean, hstep.settled⟩

/-- The host asks for half of the speed, and the first fan takes no duty. -/
def stubbornFan : Controller (Recorded ProbeBoard) :=
  start { board := { duties := Vector.replicate _ (.ok 50), deadFans := [0] } } {}
    { clock := Clock.stepping 0 1 }

/-- A board on the bench that is transparent. -/
def transparentBench : Wiring ProbeBoard where
  board := ProbeBoard.board
  curve := Curve.transparent

/-- The first fan stays out of step, so it was refused. -/
theorem outputs_in_step_stubbornFan :
    Curve.transparent.ReadsInputs ∧ stubbornFan.settings.thresholds.OutputsPositive ∧
      [0, 3000000] ≠ ([] : List Nat) ∧
      (afterTicks (fun _ _ shared => shared) transparentBench {} [0, 3000000]
        stubbornFan.bare).wants Curve.transparent (.fan 0) = true ∧
      (afterTicksKeepingPass (fun _ _ shared => shared) transparentBench {} [0, 3000000]
        stubbornFan).board.Refused (.fan 0) := by
  have hpos : stubbornFan.settings.thresholds.OutputsPositive :=
    ⟨by decide, by decide⟩
  have hwants : (afterTicks (fun _ _ shared => shared) transparentBench {} [0, 3000000]
      stubbornFan.bare).wants Curve.transparent (.fan 0) = true := by decide +kernel
  obtain ⟨_, _, hsettled⟩ := outputs_in_step (fun _ _ shared => shared) transparentBench {}
    [0, 3000000] stubbornFan Curve.transparent_readsInputs hpos (List.cons_ne_nil _ _)
  refine ⟨Curve.transparent_readsInputs, hpos, List.cons_ne_nil _ _, hwants, ?_⟩
  exact (hsettled (.fan 0)).resolve_left fun hstill =>
    Bool.noConfusion (hwants.symm.trans hstill)

end Controller

end FanBoard
