import FanBoard.Proofs.Controller.Parts

/-!
# What the tasks leave alone

Only the output update touches the outputs and asks the board for values.  The other tasks fall into
two groups.

* The status light, the display, the network, the watchdog and the terminal leave the signals as they
  are (`Undisturbed`).
* The three sampling tasks may change an input, and then they say so (`Noticed`).
-/

namespace FanBoard

variable {β : Type}

open Relation (ReflTransGen)

namespace Controller

/-- The same settings and signals, and no further output call. -/
structure Undisturbed (c c' : Controller (Recorded β)) : Prop where
  settings : c'.settings = c.settings
  signals : c'.signals = c.signals
  calls : c'.board.calls = c.board.calls

/-- The same settings and no further output call, and the same signals unless there is a note that an
input changed. -/
structure Noticed (c c' : Controller (Recorded β)) : Prop where
  settings : c'.settings = c.settings
  signals : c'.signals.dirty = false → c'.signals = c.signals
  calls : c'.board.calls = c.board.calls

theorem Undisturbed.refl (c : Controller (Recorded β)) : c.Undisturbed c :=
  ⟨rfl, rfl, rfl⟩

theorem Undisturbed.trans {c c' c'' : Controller (Recorded β)} (h : c.Undisturbed c')
    (h' : c'.Undisturbed c'') : c.Undisturbed c'' :=
  ⟨h'.settings.trans h.settings, h'.signals.trans h.signals, h'.calls.trans h.calls⟩

theorem Undisturbed.noticed {c c' : Controller (Recorded β)} (h : c.Undisturbed c') :
    c.Noticed c' :=
  ⟨h.settings, fun _ => h.signals, h.calls⟩

theorem Noticed.trans {c c' c'' : Controller (Recorded β)} (h : c.Noticed c')
    (h' : c'.Noticed c'') : c.Noticed c'' where
  settings := h'.settings.trans h.settings
  signals hclean := by
    have hsame := h'.signals hclean
    rw [hsame] at hclean ⊢
    exact h.signals hclean
  calls := h'.calls.trans h.calls

theorem undisturbed_shared (c : Controller (Recorded β)) (shared : Shared) :
    c.Undisturbed { c with shared } :=
  ⟨rfl, rfl, rfl⟩

theorem undisturbed_metrics (c : Controller (Recorded β)) (metrics : LoopMetrics) :
    c.Undisturbed { c with metrics } :=
  ⟨rfl, rfl, rfl⟩

/-! ## Parts -/

section Parts

variable {c c' : Controller (Recorded β)}

theorem undisturbed_terminalPart {w : Wiring β} (h : TerminalPart w.recorded c c') :
    c.Undisturbed c' := by
  cases h with
  | read | sent | noted | served | edited => exact ⟨rfl, rfl, rfl⟩

theorem noticed_samplingPart {b : Board β} (h : SamplingPart b.recorded c c') : c.Noticed c' := by
  cases h with
  | noted | sampled | read | failed => exact ⟨rfl, fun _ => rfl, rfl⟩
  | taken x _ => exact ⟨rfl, fun hclean => Bool.noConfusion hclean, rfl⟩

end Parts

theorem undisturbed_pumpTerminal (w : Wiring β) (c : Controller (Recorded β)) :
    c.Undisturbed (c.pumpTerminal w.recorded) :=
  ReflTransGen.trans_induction_on (motive := fun {c c'} _ => Undisturbed c c')
    (terminal_parts w.recorded c) Undisturbed.refl undisturbed_terminalPart
    fun _ _ h h' => h.trans h'

theorem noticed_sampling (w : Wiring β) (c : Controller (Recorded β)) {task : Task}
    (htask : task ∈ [.inputDuty, .temperature, .inputTach]) :
    c.Noticed (c.perTask w.recorded task) :=
  ReflTransGen.trans_induction_on (motive := fun {c c'} _ => Noticed c c')
    (sampling_parts w.recorded c htask) (fun c => (Undisturbed.refl c).noticed) noticed_samplingPart
    fun _ _ h h' => h.trans h'

/-! ## All tasks but one -/

theorem neither_samples_nor_updates {task : Task}
    (hsampling : task ∉ [.inputDuty, .temperature, .inputTach]) (hupdate : task ≠ .outputUpdate) :
    task ∉ [.inputDuty, .temperature, .inputTach, .outputUpdate] := by
  intro hmem
  have hsplit : task ∈ [.inputDuty, .temperature, .inputTach] ++ [.outputUpdate] := hmem
  rcases List.mem_append.mp hsplit with htask | htask
  · exact hsampling htask
  · exact hupdate (List.mem_singleton.mp htask)

/-- A task that neither samples nor updates the outputs disturbs nothing. -/
theorem undisturbed_runTask (w : Wiring β) {task : Task} (tick : Tick)
    (htask : task ∉ [.inputDuty, .temperature, .inputTach, .outputUpdate])
    (c : Controller (Recorded β)) : c.Undisturbed (c.runTask w.recorded task tick) := by
  refine (c.undisturbed_metrics (c.metrics.observe tick)).trans ?_
  cases task with
  | inputDuty | temperature | inputTach | outputUpdate => simp at htask
  | console => exact undisturbed_pumpTerminal w _
  | networkPoll | statusLed | display | watchdog => exact ⟨rfl, rfl, rfl⟩

/-- A task other than the output update changes no signal without a note. -/
theorem noticed_runTask (w : Wiring β) {task : Task} (tick : Tick) (htask : task ≠ .outputUpdate)
    (c : Controller (Recorded β)) : c.Noticed (c.runTask w.recorded task tick) := by
  by_cases hsampling : task ∈ [.inputDuty, .temperature, .inputTach]
  · exact (c.undisturbed_metrics (c.metrics.observe tick)).noticed.trans
      (noticed_sampling w _ hsampling)
  · have hother := neither_samples_nor_updates hsampling htask
    exact (undisturbed_runTask w tick hother c).noticed

end Controller

end FanBoard
