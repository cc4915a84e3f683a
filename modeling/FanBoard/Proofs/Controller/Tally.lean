import FanBoard.Proofs.Controller.Accepted
import Mathlib.Data.UInt

/-!
# Every failure is counted once

The controller counts the calls that the board accepted, the calls that it refused, and the samples
that failed.  Each count is the number of such happenings in the history, in 32 bits.

* `Tally.after` is what one happening adds.  Every happening adds one to at most one count.
* `Tallied` ties a history to the controllers before and after it.  The sampling tasks add their
  samples (`perTask_tallied`), a pass adds its calls (`foldl_update_tallied`), and the other tasks
  add nothing.
* `runTasks_tallied` is a sequence of runs, and `outputs_hold_last_accepted` the result from the
  start, together with what the outputs hold.
-/

namespace FanBoard

open Relation (ReflTransGen)

/-! ## Counts -/

namespace Happening

/-- A call that the board accepted. -/
def accepted : Happening → Bool
  | .call (.fan _ _ (.ok _)) | .call (.header _ _ (.ok _)) => true
  | .call (.fan _ _ (.error _)) | .call (.header _ _ (.error _)) | .sample _ => false

/-- A call that the board refused. -/
def refused : Happening → Bool
  | .call (.fan _ _ (.error _)) | .call (.header _ _ (.error _)) => true
  | .call (.fan _ _ (.ok _)) | .call (.header _ _ (.ok _)) | .sample _ => false

/-- A sample that failed. -/
def missed : Happening → Bool
  | .sample ⟨_, .error _⟩ => true
  | .sample ⟨_, .ok _⟩ | .call _ => false

end Happening

/-- The counts of the figures. -/
structure Tally where
  outputWrites : UInt32
  actuatorErrors : UInt32
  sensorErrors : UInt32

def LoopMetrics.tally (m : LoopMetrics) : Tally where
  outputWrites := m.outputWrites
  actuatorErrors := m.actuatorErrors
  sensorErrors := m.sensorErrors

namespace Tally

/-- The counts after a happening. -/
def after (n : Tally) (h : Happening) : Tally where
  outputWrites := if h.accepted then n.outputWrites + 1 else n.outputWrites
  actuatorErrors := if h.refused then n.actuatorErrors + 1 else n.actuatorErrors
  sensorErrors := if h.missed then n.sensorErrors + 1 else n.sensorErrors

/-- The counts of a history. -/
def ofHistory (hs : List Happening) : Tally where
  outputWrites := UInt32.ofNat (hs.countP Happening.accepted)
  actuatorErrors := UInt32.ofNat (hs.countP Happening.refused)
  sensorErrors := UInt32.ofNat (hs.countP Happening.missed)

theorem ofNat_countP_concat (p : Happening → Bool) (hs : List Happening) (h : Happening) :
    UInt32.ofNat ((hs ++ [h]).countP p) =
      if p h then UInt32.ofNat (hs.countP p) + 1 else UInt32.ofNat (hs.countP p) := by
  rw [List.countP_append, List.countP_singleton]
  split
  · rw [UInt32.ofNat_add]
    rfl
  · rfl

/-- Counting one happening after the other gives the counts of the history. -/
theorem foldl_after (hs : List Happening) : hs.foldl after (ofHistory []) = ofHistory hs := by
  induction hs using List.reverseRecOn with
  | nil => rfl
  | append_singleton hs h ih =>
    rw [List.foldl_append, ih]
    simp only [List.foldl_cons, List.foldl_nil, after, ofHistory, ofNat_countP_concat]

end Tally

namespace Controller

variable {β : Type}

/-- The second controller has counted, beyond the first, the happenings of a history. -/
def Tallied (hs : List Happening) (c c' : Controller β) : Prop :=
  c'.metrics.tally = hs.foldl Tally.after c.metrics.tally

theorem Tallied.trans {xs ys : List Happening} {c c' c'' : Controller β} (h : Tallied xs c c')
    (h' : Tallied ys c' c'') : Tallied (xs ++ ys) c c'' := by
  rw [Tallied, List.foldl_append, ← show _ = _ from h]
  exact h'

/-! ## Samples -/

theorem tallied_takeDuty (c : Controller β) (i : Fin headerCount)
    (result : Except SensorFault Float32) :
    c.Tallied [.sample ⟨.header i, result⟩] (c.takeDuty i result) := by
  cases result with
  | error f => rfl
  | ok raw =>
    simp only [takeDuty]
    split <;> rfl

theorem tallied_takeTemperature (c : Controller β) (i : Fin sensorCount)
    (result : Except SensorFault Float32) :
    c.Tallied [.sample ⟨.sensor i, result⟩] (c.takeTemperature i result) := by
  cases result with
  | error f => rfl
  | ok t =>
    simp only [takeTemperature]
    split <;> rfl

theorem tallied_takeTach (c : Controller β) (i : Fin fanCount) (hz : Float32) :
    c.Tallied [.sample ⟨.fan i, .ok hz⟩] (c.takeTach i hz) := by
  simp only [takeTach]
  split <;> rfl

theorem tallied_foldl {ι : Type} {step : Controller β → ι → Controller β} {sample : ι → Sample}
    (h : ∀ c i, Tallied [.sample (sample i)] c (step c i)) (l : List ι) (c : Controller β) :
    c.Tallied ((l.map sample).map .sample) (l.foldl step c) := by
  induction l generalizing c with
  | nil => rfl
  | cons i l ih => exact (h c i).trans (ih (step c i))

theorem tallied_foldl_sampleTemperature (b : Board β) (l : List (Fin sensorCount))
    (c : Controller β) :
    c.Tallied ((b.temperatures l c.board).map .sample) (l.foldl (sampleTemperature b) c) := by
  induction l generalizing c with
  | nil => rfl
  | cons i l ih =>
    let sample := b.readTemperature i c.board
    have hfirst : c.Tallied [.sample ⟨.sensor i, sample.value⟩] (c.sampleTemperature b i) :=
      tallied_takeTemperature (c.after sample) i sample.value
    have hboard : (c.sampleTemperature b i).board = sample.state := takeTemperature_board _ _ _
    have hrest := ih (c.sampleTemperature b i)
    rw [hboard] at hrest
    exact hfirst.trans hrest

/-- A sampling task counts the samples that failed. -/
theorem perTask_tallied (w : Wiring β) (c : Controller β) {task : Task}
    (htask : task ∈ [.inputDuty, .temperature, .inputTach]) :
    c.Tallied ((c.samples w task).map .sample) (c.perTask w task) := by
  cases task with
  | inputDuty =>
    simp only [perTask, sampleDuties, samples]
    exact tallied_foldl (fun c i => c.tallied_takeDuty i _) _ _
  | temperature =>
    simp only [perTask, sampleTemperatures, samples]
    exact tallied_foldl_sampleTemperature w.board _ (c.note _ _)
  | inputTach =>
    simp only [perTask, sampleTachs, samples]
    exact tallied_foldl (fun c i => c.tallied_takeTach i _) _ _
  | networkPoll | statusLed | display | outputUpdate | console | watchdog => simp at htask

/-! ## Calls -/

/-- A write counts its call. -/
theorem writeOutput_tally (b : Board β) (c : Controller β) (o : Output) (value : Float32) :
    c.Tallied [.call (o.call value (b.ask o value c.board).value)] (c.writeOutput b o value) := by
  cases o with
  | fan i =>
    simp only [writeOutput, writeFan, Board.ask, Output.call]
    split
    · rename_i hvalue
      rw [hvalue]
      rfl
    · rename_i f hvalue
      rw [hvalue]
      rfl
  | header i =>
    simp only [writeOutput, writeHeader, Board.ask, Output.call]
    split
    · rename_i hvalue
      rw [hvalue]
      rfl
    · rename_i f hvalue
      rw [hvalue]
      rfl

theorem update_tallied (w : Wiring β) (c : Controller β) (o : Output) :
    c.Tallied ((c.tried w o).toList.map .call) (c.update w o) := by
  rw [update_eq, tried]
  split
  · exact writeOutput_tally w.board c o _
  · rfl

/-- A pass counts its calls. -/
theorem foldl_update_tallied (w : Wiring β) (os : List Output) (c : Controller (Recorded β)) :
    ∃ calls, (os.foldl (update w.recorded) c).board.calls = c.board.calls ++ calls ∧
      c.bare.Tallied (calls.map .call) (os.foldl (update w.recorded) c).bare := by
  induction os generalizing c with
  | nil => exact ⟨[], (List.append_nil _).symm, rfl⟩
  | cons o os ih =>
    obtain ⟨rest, hrest, htallied⟩ := ih (c.update w.recorded o)
    refine ⟨(c.bare.tried w o).toList ++ rest, ?_, ?_⟩
    · rw [List.foldl_cons, hrest, update_calls, List.append_assoc]
    · rw [update_bare] at htallied
      rw [List.map_append]
      exact (update_tallied w c.bare o).trans htallied

/-! ## Tasks that count nothing -/

theorem pumpTerminal_metrics (w : Wiring β) (c : Controller β) :
    (c.pumpTerminal w).metrics = c.metrics := by
  refine ReflTransGen.trans_induction_on (motive := fun {c c' : Controller β} _ =>
    c'.metrics = c.metrics) (terminal_parts w c) (fun _ => rfl) (fun part => ?_)
    fun _ _ h h' => h'.trans h
  cases part with
  | read | sent | noted | served | edited => rfl

theorem perTask_metrics (w : Wiring β) (c : Controller β) {task : Task}
    (htask : task ∉ [.inputDuty, .temperature, .inputTach, .outputUpdate]) :
    (c.perTask w task).metrics = c.metrics := by
  cases task with
  | inputDuty | temperature | inputTach | outputUpdate => simp at htask
  | console => exact pumpTerminal_metrics w c
  | networkPoll | statusLed | display | watchdog => rfl

/-! ## Runs of tasks -/

theorem outputUpdate_tallied (c : Controller β) (r : TaskRun β) (hupdate : r.task = .outputUpdate) :
    c.Tallied (c.happenings r) (c.runOne r) := by
  let begun : Controller (Recorded β) :=
    { c.recording.meeting r.recorded with metrics := c.metrics.observe r.tick }
  have hrun : c.recording.runOne r.recorded = begun.updateOutputs r.wiring.recorded := by
    simp only [runOne, runTask, TaskRun.recorded, hupdate]
    rfl
  have hsamples : (c.meeting r).samples r.wiring r.task = [] := by rw [hupdate]; rfl
  obtain ⟨calls, hcalls, htallied⟩ := foldl_update_tallied r.wiring Output.all begun.beginPass
  have hkept : (c.recording.runOne r.recorded).board.calls = calls := by
    rw [hrun, updateOutputs_eq, hcalls]
    rfl
  rw [happenings, hsamples, hkept, ← runOne_recording c r, hrun, updateOutputs_eq]
  exact htallied

/-- A run of a task counts what happens in it. -/
theorem runOne_tallied (c : Controller β) (r : TaskRun β) :
    c.Tallied (c.happenings r) (c.runOne r) := by
  by_cases hupdate : r.task = .outputUpdate
  · exact outputUpdate_tallied c r hupdate
  rw [happenings_of_ne c r hupdate]
  let begun : Controller β := { c.meeting r with metrics := c.metrics.observe r.tick }
  by_cases hsampling : r.task ∈ [.inputDuty, .temperature, .inputTach]
  · have hsamples : begun.samples r.wiring r.task = (c.meeting r).samples r.wiring r.task := by
      cases r.task <;> rfl
    rw [← hsamples]
    exact perTask_tallied r.wiring begun hsampling
  · have hother := neither_samples_nor_updates hsampling hupdate
    have hsamples := (c.meeting r).samples_eq_nil r.wiring hsampling
    have hmetrics : (c.runOne r).metrics = begun.metrics := perTask_metrics r.wiring begun hother
    rw [hsamples, Tallied, hmetrics]
    rfl

theorem runTasks_tallied (c : Controller β) (runs : List (TaskRun β)) :
    c.Tallied (c.history runs) (c.runTasks runs) := by
  induction runs generalizing c with
  | nil => rfl
  | cons r runs ih => exact (runOne_tallied c r).trans (ih (c.runOne r))

/-! ## The result -/

/-- Where everything failed that a task tried, no signal is another one. -/
theorem runOne_of_failed (c : Controller β) (r : TaskRun β)
    (hfailed : ∀ h ∈ c.happenings r, h.refused = true ∨ h.missed = true) :
    (c.runOne r).signals.clean = c.signals.clean := by
  rw [(runOne_follows c r).signals]
  refine List.foldlRecOn (c.happenings r) _ (motive := fun s => s = c.signals.clean) rfl ?_
  intro s hs h hmem
  rw [hs]
  match h, hfailed h hmem with
  | .sample ⟨_, .error _⟩, _ => rfl
  | .call (.fan _ _ (.error _)), _ | .call (.header _ _ (.error _)), _ => rfl

/-- From the start and after any tasks, with any settings, any curve and any board:

* every output holds the value that it accepted last, and zero if it accepted none;
* a call that the board refuses changes no signal, whenever it is made, and a run of a task in
  which all samples failed and all calls were refused changes none either, the note apart that an
  input changed;
* in a pass every output gets its turn, and is asked for its target if that is a change then,
  whatever became of the calls before;
* the figures count, in 32 bits, the calls that were accepted, the calls that were refused, and the
  samples that failed. -/
theorem outputs_hold_last_accepted (board : β) (settings : Settings) (shared : Shared)
    (runs : List (TaskRun β)) :
    let first := start board settings shared
    let c := first.runTasks runs
    let history := first.history runs
    (∀ o, c.signals.output o = o.lastAccepted history) ∧
      (∀ (b : Board β) (during : Controller β) (o : Output) (value : Float32) (f : ActuatorFault),
        (b.ask o value during.board).value = .error f →
        (during.writeOutput b o value).signals = during.signals) ∧
      (∀ next : TaskRun β, (∀ h ∈ c.happenings next, h.refused = true ∨ h.missed = true) →
        (c.runOne next).signals.clean = c.signals.clean) ∧
      (∀ next : TaskRun β, next.task = .outputUpdate →
        c.happenings next =
          (Output.all.filterMap fun o =>
            ((c.passStart next).turn next.wiring Output.all o).tried next.wiring o).map .call) ∧
      c.metrics.outputWrites = UInt32.ofNat (history.countP Happening.accepted) ∧
      c.metrics.actuatorErrors = UInt32.ofNat (history.countP Happening.refused) ∧
      c.metrics.sensorErrors = UInt32.ofNat (history.countP Happening.missed) := by
  intro first c history
  have hcounted : c.metrics.tally = history.foldl Tally.after (Tally.ofHistory []) :=
    runTasks_tallied first runs
  have htally : c.metrics.tally = Tally.ofHistory history :=
    hcounted.trans (Tally.foldl_after history)
  refine ⟨fun o => ?_, ?_, runOne_of_failed c, happenings_outputUpdate c,
    congrArg Tally.outputWrites htally, congrArg Tally.actuatorErrors htally,
    congrArg Tally.sensorErrors htally⟩
  · have hzero : first.signals.output o = 0 := Signals.output_zero o
    rw [runTasks_output, hzero]
    rfl
  · intro b during o value f hrefused
    exact writeOutput_of_error b during hrefused

end Controller

end FanBoard
