import FanBoard.Proofs.Controller.Pass
import FanBoard.Proofs.Controller.Recording
import FanBoard.Proofs.Controller.Undisturbed

/-!
# Every signal is a number

A signal that is not a number would stay for ever, because no value differs from it by any threshold.
No signal becomes one.  A value goes into a signal or to an output only through a deadband, and a
deadband lets no such value through, whatever its threshold is.

* `Signals.Numbers` is the invariant, and `OnlyNumbers` adds the output calls.
* The sampling tasks keep it part by part (`samplingPart_numbers`), the output update by
  `Deadband.isNaN_of_changed`, and the other tasks change neither signals nor calls.
* `runTasks_onlyNumbers` is a run of tasks, and `signals_never_nan` the result from the start.
-/

namespace FanBoard

open Relation (ReflTransGen)

variable {β : Type}

/-! ## Signals -/

/-- All values of a vector are numbers. -/
def AllNumbers {n : Nat} (v : Vector Float32 n) : Prop :=
  ∀ i : Fin n, (v.get i).isNaN = false

theorem AllNumbers.set {n : Nat} {v : Vector Float32 n} (h : AllNumbers v) (i : Fin n)
    {x : Float32} (hx : x.isNaN = false) : AllNumbers (v.set i.val x i.isLt) := by
  intro j
  by_cases hj : j = i
  · rw [hj, get_set_self]
    exact hx
  · rw [get_set_of_ne v x hj]
    exact h j

theorem allNumbers_zero (n : Nat) : AllNumbers (Vector.replicate n (0 : Float32)) := by
  intro i
  have hzero : (Vector.replicate n (0 : Float32)).get i = 0 := Vector.getElem_replicate i.isLt
  rw [hzero]
  decide

namespace Signals

/-- All signals are numbers. -/
structure Numbers (s : Signals) : Prop where
  headerDuty : AllNumbers s.headerDuty
  fanTach : AllNumbers s.fanTach
  temperature : AllNumbers s.temperature
  fanDuty : AllNumbers s.fanDuty
  headerTach : AllNumbers s.headerTach

theorem numbers_zero : zero.Numbers where
  headerDuty := allNumbers_zero headerCount
  fanTach := allNumbers_zero fanCount
  temperature := allNumbers_zero sensorCount
  fanDuty := allNumbers_zero fanCount
  headerTach := allNumbers_zero headerCount

theorem Numbers.setOutput {s : Signals} (h : s.Numbers) (o : Output) {x : Float32}
    (hx : x.isNaN = false) : (s.setOutput o x).Numbers := by
  cases o with
  | fan i => exact { h with fanDuty := h.fanDuty.set i hx }
  | header i => exact { h with headerTach := h.headerTach.set i hx }

theorem Numbers.setInput {s : Signals} (h : s.Numbers) (x : Input) {value : Float32}
    (hvalue : value.isNaN = false) : (s.setInput x value).Numbers := by
  cases x with
  | header i => exact { h with headerDuty := h.headerDuty.set i hvalue }
  | fan i => exact { h with fanTach := h.fanTach.set i hvalue }
  | sensor i => exact { h with temperature := h.temperature.set i hvalue }

end Signals

/-- The value that an output call asked for. -/
def OutputCall.value : OutputCall → Float32
  | .fan _ duty _ => duty
  | .header _ hz _ => hz

theorem Output.value_call (o : Output) (x : Float32) (result : Except ActuatorFault Unit) :
    (o.call x result).value = x := by
  cases o <;> rfl

namespace Controller

/-! ## Sampling -/

theorem samplingPart_numbers {b : Board β} {c c' : Controller β} (hpart : SamplingPart b c c')
    (h : c.signals.Numbers) : c'.signals.Numbers := by
  cases hpart with
  | noted | sampled | read | failed => exact h
  | taken x hvalue => exact { h.setInput x hvalue with }

theorem sampling_numbers (w : Wiring β) (c : Controller β) {task : Task}
    (htask : task ∈ [.inputDuty, .temperature, .inputTach]) (h : c.signals.Numbers) :
    (c.perTask w task).signals.Numbers :=
  ReflTransGen.trans_induction_on
    (motive := fun {c c'} _ => c.signals.Numbers → c'.signals.Numbers)
    (sampling_parts w c htask) (fun _ => id) samplingPart_numbers (fun _ _ h h' hc => h' (h hc)) h

/-! ## Outputs -/

/-- All signals are numbers, and no output was ever asked for anything else. -/
structure OnlyNumbers (c : Controller (Recorded β)) : Prop where
  signals : c.signals.Numbers
  calls : ∀ call ∈ c.board.calls, call.value.isNaN = false

theorem OnlyNumbers.of_calls {c c' : Controller (Recorded β)} (h : c.OnlyNumbers)
    (hsignals : c'.signals.Numbers) (hcalls : c'.board.calls = c.board.calls) : c'.OnlyNumbers where
  signals := hsignals
  calls := by
    rw [hcalls]
    exact h.calls

/-- An output is asked for its target only if that is a change, so the target is a number. -/
theorem OnlyNumbers.update {c : Controller (Recorded β)} (h : c.OnlyNumbers) (w : Wiring β)
    (o : Output) : (c.update w.recorded o).OnlyNumbers := by
  rw [update_eq]
  split
  · rename_i hwants
    have hnumber : (w.curve.target c.signals o).isNaN = false := Deadband.isNaN_of_changed hwants
    have hcalls : ∀ result, ∀ call ∈ c.board.calls ++ [o.call (w.curve.target c.signals o) result],
        call.value.isNaN = false := by
      intro result call hmem
      rcases List.mem_append.mp hmem with hold | hnew
      · exact h.calls call hold
      · rw [List.mem_singleton.mp hnew, Output.value_call]
        exact hnumber
    rcases writeOutput_cases w.board c o (w.curve.target c.signals o) with
      ⟨hsignals, hadded⟩ | ⟨f, hsignals, hadded⟩
    · constructor
      · rw [Wiring.recorded, hsignals]
        exact h.signals.setOutput o hnumber
      · rw [Wiring.recorded, hadded]
        exact hcalls _
    · constructor
      · rw [Wiring.recorded, hsignals]
        exact h.signals
      · rw [Wiring.recorded, hadded]
        exact hcalls _
  · exact h

theorem OnlyNumbers.updateOutputs {c : Controller (Recorded β)} (h : c.OnlyNumbers)
    (w : Wiring β) : (c.updateOutputs w.recorded).OnlyNumbers := by
  rw [updateOutputs_eq]
  refine List.foldlRecOn _ _ ?_ fun c' hc' o _ => hc'.update w o
  -- the pass begins by removing the note, and that is no number
  exact ⟨{ h.signals with }, h.calls⟩

/-! ## Tasks -/

theorem OnlyNumbers.runTask {c : Controller (Recorded β)} (h : c.OnlyNumbers) (w : Wiring β)
    (task : Task) (tick : Tick) : (c.runTask w.recorded task tick).OnlyNumbers := by
  by_cases hupdate : task = .outputUpdate
  · subst hupdate
    have hobserved : OnlyNumbers { c with metrics := c.metrics.observe tick } :=
      ⟨h.signals, h.calls⟩
    exact hobserved.updateOutputs w
  · refine h.of_calls ?_ (noticed_runTask w tick hupdate c).calls
    by_cases hsampling : task ∈ [.inputDuty, .temperature, .inputTach]
    · exact sampling_numbers w.recorded { c with metrics := c.metrics.observe tick } hsampling
        h.signals
    · have hother := neither_samples_nor_updates hsampling hupdate
      rw [(undisturbed_runTask w tick hother c).signals]
      exact h.signals

end Controller

/-! ## Runs of tasks -/

/-- A task that is run, with what happens before it outside the controller.  The connections are those
of this one run, so a curve with a memory of its own is among them. -/
structure TaskRun (β : Type) where
  wiring : Wiring β
  /-- What happens on the hardware. -/
  board : β → β
  /-- What the other core does. -/
  shared : Shared → Shared
  task : Task
  tick : Tick

/-- The same on the board that keeps its output calls. -/
def TaskRun.recorded (r : TaskRun β) : TaskRun (Recorded β) :=
  { r with
    wiring := r.wiring.recorded
    board := fun b => { b with board := r.board b.board } }

namespace Controller

/-- One run of a task. -/
def runOne (c : Controller β) (r : TaskRun β) : Controller β :=
  { c with board := r.board c.board, shared := r.shared c.shared }.runTask r.wiring r.task r.tick

/-- Tasks run one after the other. -/
def runTasks (c : Controller β) (runs : List (TaskRun β)) : Controller β :=
  runs.foldl runOne c

theorem runTasks_bare (c : Controller (Recorded β)) (runs : List (TaskRun β)) :
    (c.runTasks (runs.map TaskRun.recorded)).bare = c.bare.runTasks runs := by
  rw [runTasks, List.foldl_map]
  exact foldl_bare (fun c r => runTask_bare r.wiring r.task r.tick _) runs c

theorem runTasks_onlyNumbers {c : Controller (Recorded β)} (h : c.OnlyNumbers)
    (runs : List (TaskRun β)) : (c.runTasks (runs.map TaskRun.recorded)).OnlyNumbers := by
  rw [runTasks, List.foldl_map]
  refine List.foldlRecOn _ _ h fun c' hc' r _ => ?_
  have hbefore : OnlyNumbers
      { c' with
        board := r.recorded.board c'.board
        shared := r.recorded.shared c'.shared } := ⟨hc'.signals, hc'.calls⟩
  exact hbefore.runTask r.wiring r.task r.tick

/-- From the start and after any tasks all signals are numbers, and no output was ever asked for
anything else.  This holds for any settings, any curve and any board, and whatever the other core
publishes. -/
theorem signals_never_nan (board : β) (settings : Settings) (shared : Shared)
    (runs : List (TaskRun β)) :
    let c := (start board settings shared).runTasks runs
    let recorded :=
      (start ({ board } : Recorded β) settings shared).runTasks (runs.map TaskRun.recorded)
    recorded.bare = c ∧ c.signals.Numbers ∧
      ∀ call ∈ recorded.board.calls, call.value.isNaN = false := by
  intro c recorded
  have hbare : recorded.bare = c := runTasks_bare _ runs
  have hstart : (start ({ board } : Recorded β) settings shared).OnlyNumbers :=
    ⟨Signals.numbers_zero, by simp [start]⟩
  have hnumbers : recorded.OnlyNumbers := runTasks_onlyNumbers hstart runs
  refine ⟨hbare, ?_, hnumbers.calls⟩
  rw [← hbare]
  exact hnumbers.signals

end Controller

end FanBoard
