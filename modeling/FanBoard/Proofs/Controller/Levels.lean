import FanBoard.Board.Hardware
import FanBoard.Proofs.Controller.Numbers

/-!
# The levels on the hardware

The hardware records the level last written to every output, and the controller keeps the value that
it asked for among its signals.  The level is the value brought into the range of the output, at every
moment of every run, whatever the curve asks for.

* `writeOutput_hardware` says what a write does on both sides.  On this hardware no write fails.
* `SameOutputs` is what the other tasks leave alone (`sameOutputs_runTask`).
* `Faithful` is the invariant.  A target that is no number never gets to the outputs, because it is no
  change, so the range is never asked to bound one.
* `levels_follow_signals` is the result.
-/

namespace FanBoard

open Relation (ReflTransGen)

/-! ## Levels -/

/-- The range of an output. -/
def Output.bound : Output → Float32 → Float32
  | .fan _, x => Single.clamp x 0 100
  | .header _, x => Single.floorAtZero x

theorem Output.bound_zero (o : Output) : o.bound 0 = 0 := by
  cases o with
  | fan i =>
    show Single.clamp 0 0 100 = 0
    decide
  | header i =>
    show Single.floorAtZero 0 = 0
    decide

namespace OutputLevels

/-- The level of an output. -/
def level (l : OutputLevels) : Output → Float32
  | .fan i => l.fanDuty.get i
  | .header i => l.headerTach.get i

/-- The levels after a value was written to an output. -/
def drive (l : OutputLevels) (o : Output) (value : Float32) : OutputLevels :=
  match o with
  | .fan i =>
    { l with
      fanDuty := l.fanDuty.set i.val (o.bound value) i.isLt
      writes := l.writes + 1 }
  | .header i =>
    { l with
      headerTach := l.headerTach.set i.val (o.bound value) i.isLt
      writes := l.writes + 1 }

@[simp] theorem drive_writes (l : OutputLevels) (o : Output) (value : Float32) :
    (l.drive o value).writes = l.writes + 1 := by
  cases o <;> rfl

theorem level_drive_self (l : OutputLevels) (o : Output) (value : Float32) :
    (l.drive o value).level o = o.bound value := by
  cases o with
  | fan i => exact get_set_self l.fanDuty i _
  | header i => exact get_set_self l.headerTach i _

theorem level_drive_of_ne (l : OutputLevels) {o o' : Output} (value : Float32) (h : o' ≠ o) :
    (l.drive o value).level o' = l.level o' := by
  cases o with
  | fan i =>
    cases o' with
    | fan j => exact get_set_of_ne l.fanDuty _ fun heq => h (congrArg Output.fan heq)
    | header j => rfl
  | header i =>
    cases o' with
    | fan j => rfl
    | header j => exact get_set_of_ne l.headerTach _ fun heq => h (congrArg Output.header heq)

end OutputLevels

namespace Controller

/-- A write takes the value over on both sides. -/
theorem writeOutput_hardware (c : Controller Hardware) (o : Output) (value : Float32) :
    let c' := c.writeOutput Hardware.board o value
    c'.signals = c.signals.setOutput o value ∧
      c'.board.outputs = c.board.outputs.drive o value ∧
      c'.metrics.outputWrites = c.metrics.outputWrites + 1 := by
  cases o with
  | fan i =>
    simp only [writeOutput, writeFan, Hardware.board, Hardware.setFanDuty, dif_pos i.isLt]
    exact ⟨rfl, rfl, rfl⟩
  | header i =>
    simp only [writeOutput, writeHeader, Hardware.board, Hardware.setHeaderTach, dif_pos i.isLt]
    exact ⟨rfl, rfl, rfl⟩

/-! ## What the other tasks leave alone -/

/-- The same levels and the same outputs among the signals, and no further write counted. -/
structure SameOutputs (c c' : Controller Hardware) : Prop where
  levels : c'.board.outputs = c.board.outputs
  fanDuty : c'.signals.fanDuty = c.signals.fanDuty
  headerTach : c'.signals.headerTach = c.signals.headerTach
  writes : c'.metrics.outputWrites = c.metrics.outputWrites

theorem SameOutputs.refl (c : Controller Hardware) : c.SameOutputs c :=
  ⟨rfl, rfl, rfl, rfl⟩

theorem SameOutputs.trans {c c' c'' : Controller Hardware} (h : c.SameOutputs c')
    (h' : c'.SameOutputs c'') : c.SameOutputs c'' :=
  ⟨h'.levels.trans h.levels, h'.fanDuty.trans h.fanDuty, h'.headerTach.trans h.headerTach,
    h'.writes.trans h.writes⟩

section Parts

variable {c c' : Controller Hardware}

theorem sameOutputs_samplingPart (h : SamplingPart Hardware.board c c') : c.SameOutputs c' := by
  cases h with
  | noted | sampled | read | failed => exact ⟨rfl, rfl, rfl, rfl⟩
  | taken x _ => cases x <;> exact ⟨rfl, rfl, rfl, rfl⟩

theorem sameOutputs_terminalPart {w : Wiring Hardware} (hboard : w.board = Hardware.board)
    (h : TerminalPart w c c') : c.SameOutputs c' := by
  cases h with
  | read | sent =>
    simp only [hboard]
    exact ⟨rfl, rfl, rfl, rfl⟩
  | noted | served | edited => exact ⟨rfl, rfl, rfl, rfl⟩

end Parts

section Tasks

variable (w : Wiring Hardware) (hboard : w.board = Hardware.board)

include hboard

theorem sameOutputs_sampling (c : Controller Hardware) {task : Task}
    (htask : task ∈ [.inputDuty, .temperature, .inputTach]) : c.SameOutputs (c.perTask w task) := by
  have hparts := sampling_parts w c htask
  rw [hboard] at hparts
  exact ReflTransGen.trans_induction_on (motive := fun {c c'} _ => SameOutputs c c') hparts
    SameOutputs.refl sameOutputs_samplingPart fun _ _ h h' => h.trans h'

theorem sameOutputs_pumpTerminal (c : Controller Hardware) : c.SameOutputs (c.pumpTerminal w) :=
  ReflTransGen.trans_induction_on (motive := fun {c c'} _ => SameOutputs c c') (terminal_parts w c)
    SameOutputs.refl (sameOutputs_terminalPart hboard) fun _ _ h h' => h.trans h'

/-- A task other than the output update touches no output. -/
theorem sameOutputs_runTask {task : Task} (tick : Tick) (htask : task ≠ .outputUpdate)
    (c : Controller Hardware) : c.SameOutputs (c.runTask w task tick) := by
  have hobserved : c.SameOutputs { c with metrics := c.metrics.observe tick } :=
    ⟨rfl, rfl, rfl, rfl⟩
  refine hobserved.trans ?_
  rw [runTask]
  cases task with
  | console => exact sameOutputs_pumpTerminal w hboard _
  | outputUpdate => exact absurd rfl htask
  | inputDuty | temperature | inputTach => exact sameOutputs_sampling w hboard _ (by simp)
  | networkPoll | statusLed | display | watchdog =>
    simp only [perTask, hboard]
    exact ⟨rfl, rfl, rfl, rfl⟩

end Tasks

/-! ## The invariant -/

/-- The levels on the hardware follow the outputs among the signals. -/
structure Faithful (c : Controller Hardware) : Prop where
  number : ∀ o, (c.signals.output o).isNaN = false
  level : ∀ o, c.board.outputs.level o = o.bound (c.signals.output o)
  writes : c.board.outputs.writes = c.metrics.outputWrites

theorem Faithful.of_sameOutputs {c c' : Controller Hardware} (hc : c.Faithful)
    (h : c.SameOutputs c') : c'.Faithful := by
  have houtput : ∀ o, c'.signals.output o = c.signals.output o := by
    intro o
    cases o with
    | fan i => exact congrArg (·.get i) h.fanDuty
    | header i => exact congrArg (·.get i) h.headerTach
  refine ⟨fun o => ?_, fun o => ?_, ?_⟩
  · rw [houtput]
    exact hc.number o
  · rw [h.levels, houtput]
    exact hc.level o
  · rw [h.levels, h.writes]
    exact hc.writes

/-- A write of a number keeps both sides together. -/
theorem Faithful.writeOutput {c : Controller Hardware} (h : c.Faithful) (o : Output)
    {value : Float32} (hvalue : value.isNaN = false) :
    (c.writeOutput Hardware.board o value).Faithful := by
  obtain ⟨hsignals, hlevels, hwrites⟩ := writeOutput_hardware c o value
  refine ⟨fun o' => ?_, fun o' => ?_, ?_⟩
  · rw [hsignals]
    by_cases ho : o' = o
    · rw [ho, Signals.output_setOutput_self]
      exact hvalue
    · rw [Signals.output_setOutput_of_ne _ _ ho]
      exact h.number o'
  · rw [hsignals, hlevels]
    by_cases ho : o' = o
    · rw [ho, Signals.output_setOutput_self, OutputLevels.level_drive_self]
    · rw [Signals.output_setOutput_of_ne _ _ ho, OutputLevels.level_drive_of_ne _ _ ho]
      exact h.level o'
  · rw [hlevels, hwrites, OutputLevels.drive_writes, h.writes]

theorem Faithful.update {w : Wiring Hardware} (hboard : w.board = Hardware.board)
    {c : Controller Hardware} (h : c.Faithful) (o : Output) : (c.update w o).Faithful := by
  rw [update_eq]
  split
  · rename_i hwants
    rw [hboard]
    exact h.writeOutput o (Deadband.isNaN_of_changed hwants)
  · exact h

theorem Faithful.runTask {w : Wiring Hardware} (hboard : w.board = Hardware.board)
    {c : Controller Hardware} (h : c.Faithful) (task : Task) (tick : Tick) :
    (c.runTask w task tick).Faithful := by
  by_cases hupdate : task = .outputUpdate
  · subst hupdate
    rw [Controller.runTask, perTask, updateOutputs_eq]
    refine List.foldlRecOn _ _ ?_ fun c' hc' o _ => hc'.update hboard o
    exact h.of_sameOutputs ⟨rfl, rfl, rfl, rfl⟩
  · exact h.of_sameOutputs (sameOutputs_runTask w hboard tick hupdate c)

end Controller

/-! ## Runs on the hardware -/

/-- A task that is run on the hardware, with what happens before it outside the controller.  Edges,
converter readings, typed bytes and pins come from outside.  The outputs are the controller's. -/
structure HardwareRun where
  curve : Curve
  /-- What the other core does to the words of the lockout while the controller waits for it. -/
  peer : Nat → Lockout.Words → Lockout.Words
  /-- What happens on the hardware, the outputs apart. -/
  surroundings : Hardware → Hardware
  /-- What the other core does. -/
  shared : Shared → Shared
  task : Task
  tick : Tick

/-- The same as a run on any board. -/
def HardwareRun.toTaskRun (r : HardwareRun) : TaskRun Hardware where
  wiring := { board := Hardware.board, curve := r.curve, peer := r.peer }
  board h := { r.surroundings h with outputs := h.outputs }
  shared := r.shared
  task := r.task
  tick := r.tick

namespace Controller

theorem Faithful.runTasks {c : Controller Hardware} (h : c.Faithful) (runs : List HardwareRun) :
    (c.runTasks (runs.map HardwareRun.toTaskRun)).Faithful := by
  rw [Controller.runTasks, List.foldl_map]
  refine List.foldlRecOn _ _ h fun c' hc' r _ => ?_
  have hbefore : Faithful
      { c' with
        board := r.toTaskRun.board c'.board
        shared := r.shared c'.shared } :=
    hc'.of_sameOutputs ⟨rfl, rfl, rfl, rfl⟩
  exact hbefore.runTask rfl r.task r.tick

/-- On hardware with nothing written yet, all levels and all outputs are zero. -/
theorem start_faithful (hardware : Hardware) (hfresh : hardware.outputs = {}) (settings : Settings)
    (shared : Shared) : (start hardware settings shared).Faithful := by
  have hzero : ∀ o, (start hardware settings shared).signals.output o = 0 := by
    intro o
    cases o with
    | fan i => exact Vector.getElem_replicate i.isLt
    | header i => exact Vector.getElem_replicate i.isLt
  refine ⟨fun o => ?_, fun o => ?_, ?_⟩
  · rw [hzero]
    decide
  · rw [hzero]
    show hardware.outputs.level o = _
    rw [hfresh, Output.bound_zero]
    cases o with
    | fan i => exact Vector.getElem_replicate i.isLt
    | header i => exact Vector.getElem_replicate i.isLt
  · show hardware.outputs.writes = _
    rw [hfresh]
    rfl

/-- From fresh hardware and after any tasks, with any settings and any curve, the level of every
output is the output among the signals brought into its range.  So every fan is driven at a duty from
0 to 100 percent, no header is given a negative frequency, and both sides count the same writes. -/
theorem levels_follow_signals (hardware : Hardware) (settings : Settings) (shared : Shared)
    (runs : List HardwareRun) :
    let c := (start { hardware with outputs := {} } settings shared).runTasks
      (runs.map HardwareRun.toTaskRun)
    let levels := c.board.outputs
    (∀ i, levels.fanDuty.get i = Single.clamp (c.signals.fanDuty.get i) 0 100 ∧
        0 ≤ levels.fanDuty.get i ∧ levels.fanDuty.get i ≤ 100) ∧
      (∀ i, levels.headerTach.get i = Single.floorAtZero (c.signals.headerTach.get i) ∧
        0 ≤ levels.headerTach.get i) ∧
      levels.writes = c.metrics.outputWrites := by
  intro c levels
  have h : c.Faithful := (start_faithful _ rfl settings shared).runTasks runs
  refine ⟨fun i => ?_, fun i => ?_, h.writes⟩
  · have hlevel : levels.fanDuty.get i = Single.clamp (c.signals.fanDuty.get i) 0 100 :=
      h.level (.fan i)
    have hnumber : (c.signals.fanDuty.get i).isNaN = false := h.number (.fan i)
    refine ⟨hlevel, ?_⟩
    rw [hlevel]
    exact Single.clamp_percent hnumber
  · have hlevel : levels.headerTach.get i = Single.floorAtZero (c.signals.headerTach.get i) :=
      h.level (.header i)
    refine ⟨hlevel, ?_⟩
    rw [hlevel]
    exact Single.floorAtZero_nonneg _

end Controller

end FanBoard
