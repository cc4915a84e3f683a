import FanBoard.Proofs.Board.Recorded
import FanBoard.Proofs.Controller.Frame
import FanBoard.Proofs.Terminal.Pump

/-!
# Recording changes nothing

A controller on a board that keeps its output calls does what it does on the bare board.
`Controller.bare` leaves the record out, and every task commutes with it (`runTask_bare`).
-/

namespace FanBoard.Controller

variable {β α : Type}

/-- The controller on the bare board. -/
def bare (c : Controller (Recorded β)) : Controller β where
  board := c.board.board
  settings := c.settings
  signals := c.signals
  commands := c.commands
  editor := c.editor
  ledOn := c.ledOn
  metrics := c.metrics
  shared := c.shared

section Fields

variable (c : Controller (Recorded β))

@[simp] theorem bare_board : c.bare.board = c.board.board := rfl

@[simp] theorem bare_settings : c.bare.settings = c.settings := rfl

@[simp] theorem bare_signals : c.bare.signals = c.signals := rfl

@[simp] theorem bare_commands : c.bare.commands = c.commands := rfl

@[simp] theorem bare_editor : c.bare.editor = c.editor := rfl

@[simp] theorem bare_context : c.bare.context = c.context := rfl

end Fields

/-! ## Small steps -/

theorem recordFailure_bare (c : Controller (Recorded β)) (source : String) (f : Fault) :
    (c.recordFailure source f).bare = c.bare.recordFailure source f := by
  cases f <;> rfl

theorem after_keeping_bare (c : Controller (Recorded β)) (call : α → OutputCall)
    (f : β → Outcome β α) :
    (c.after (c.board.keeping call f)).bare = c.bare.after (f c.board.board) := rfl

/-- Steps that commute with leaving the record out do so one after the other. -/
theorem foldl_bare {ι : Type} {g : Controller (Recorded β) → ι → Controller (Recorded β)}
    {g' : Controller β → ι → Controller β} (h : ∀ c i, (g c i).bare = g' c.bare i) (l : List ι)
    (c : Controller (Recorded β)) : (l.foldl g c).bare = l.foldl g' c.bare :=
  (List.foldl_hom bare fun c i => (h c i).symm).symm

/-! ## Inputs -/

theorem takeDuty_bare (c : Controller (Recorded β)) (i : Fin headerCount)
    (sample : Except SensorFault Float32) :
    (c.takeDuty i sample).bare = c.bare.takeDuty i sample := by
  cases sample with
  | error f => exact c.recordFailure_bare _ _
  | ok raw =>
    simp only [takeDuty, bare_signals, bare_settings]
    split <;> rfl

theorem takeTemperature_bare (c : Controller (Recorded β)) (i : Fin sensorCount)
    (sample : Except SensorFault Float32) :
    (c.takeTemperature i sample).bare = c.bare.takeTemperature i sample := by
  cases sample with
  | error f => exact c.recordFailure_bare _ _
  | ok t =>
    simp only [takeTemperature, bare_signals, bare_settings]
    split <;> rfl

theorem takeTach_bare (c : Controller (Recorded β)) (i : Fin fanCount) (hz : Float32) :
    (c.takeTach i hz).bare = c.bare.takeTach i hz := by
  simp only [takeTach, bare_signals, bare_settings]
  split <;> rfl

theorem sampleDuties_bare (b : Board β) (c : Controller (Recorded β)) :
    (c.sampleDuties b.recorded).bare = c.bare.sampleDuties b := by
  simp only [sampleDuties]
  exact foldl_bare (fun c i => c.takeDuty_bare i _) _ _

theorem sampleTemperature_bare (b : Board β) (c : Controller (Recorded β)) (i : Fin sensorCount) :
    (c.sampleTemperature b.recorded i).bare = c.bare.sampleTemperature b i :=
  takeTemperature_bare _ i _

theorem sampleTemperatures_bare (b : Board β) (c : Controller (Recorded β)) :
    (c.sampleTemperatures b.recorded).bare = c.bare.sampleTemperatures b :=
  foldl_bare (sampleTemperature_bare b) _ _

theorem sampleTachs_bare (c : Controller (Recorded β)) :
    c.sampleTachs.bare = c.bare.sampleTachs := by
  simp only [sampleTachs]
  exact foldl_bare (fun c i => c.takeTach_bare i _) _ _

/-! ## Outputs -/

theorem writeFan_bare (b : Board β) (c : Controller (Recorded β)) (i : Fin fanCount)
    (target : Float32) : (c.writeFan b.recorded i target).bare = c.bare.writeFan b i target := by
  simp only [writeFan, Board.recorded, Recorded.keeping_value, bare_board]
  split
  · rfl
  · rw [recordFailure_bare, after_keeping_bare]

theorem writeHeader_bare (b : Board β) (c : Controller (Recorded β)) (i : Fin headerCount)
    (target : Float32) :
    (c.writeHeader b.recorded i target).bare = c.bare.writeHeader b i target := by
  simp only [writeHeader, Board.recorded, Recorded.keeping_value, bare_board]
  split
  · rfl
  · rw [recordFailure_bare, after_keeping_bare]

theorem updateFan_bare (w : Wiring β) (c : Controller (Recorded β)) (i : Fin fanCount) :
    (c.updateFan w.recorded i).bare = c.bare.updateFan w i := by
  refine (apply_ite bare _ _ _).trans ?_
  rw [Wiring.recorded, writeFan_bare]
  rfl

theorem updateHeader_bare (w : Wiring β) (c : Controller (Recorded β)) (i : Fin headerCount) :
    (c.updateHeader w.recorded i).bare = c.bare.updateHeader w i := by
  refine (apply_ite bare _ _ _).trans ?_
  rw [Wiring.recorded, writeHeader_bare]
  rfl

theorem updateOutputs_bare (w : Wiring β) (c : Controller (Recorded β)) :
    (c.updateOutputs w.recorded).bare = c.bare.updateOutputs w := by
  simp only [updateOutputs]
  rw [foldl_bare (updateHeader_bare w), foldl_bare (updateFan_bare w)]
  rfl

/-! ## Terminal -/

theorem sendLine_bare (b : Board β) (c : Controller (Recorded β)) (line : String) :
    (c.sendLine b.recorded line).bare = c.bare.sendLine b line := rfl

theorem dispatch_bare (w : Wiring β) (c : Controller (Recorded β)) (raw : List UInt8) :
    (c.dispatch w.recorded raw).bare = c.bare.dispatch w raw := by
  simp only [dispatch, Wiring.recorded, bare_commands, bare_context]
  rcases c.commands.process w.peer c.context (Utf8.decodeLossy raw) with ⟨commands, answer, ctx⟩
  exact foldl_bare (sendLine_bare w.board) _ _

theorem perform_bare (w : Wiring β) (c : Controller (Recorded β)) (event : Event) :
    (c.perform w.recorded event).bare = c.bare.perform w event := by
  cases event with
  | write bytes => rfl
  | note line => rfl
  | dispatch raw => exact dispatch_bare w c raw

theorem pumpTerminal_bare (w : Wiring β) (c : Controller (Recorded β)) :
    (c.pumpTerminal w.recorded).bare = c.bare.pumpTerminal w := by
  have h : (wire w).pump c.editor c.bare =
      let result := (wire w.recorded).pump c.editor c
      (result.1, result.2.1, result.2.2.bare) :=
    Wire.pump_hom (f := bare) (fun _ => rfl) (fun c event => (perform_bare w c event).symm) c.editor
      c
  simp only [pumpTerminal, bare_editor, h]
  rfl

/-! ## Tasks -/

theorem perTask_bare (w : Wiring β) (c : Controller (Recorded β)) (task : Task) :
    (c.perTask w.recorded task).bare = c.bare.perTask w task := by
  cases task with
  | inputDuty => exact sampleDuties_bare w.board c
  | temperature => exact sampleTemperatures_bare w.board c
  | inputTach => exact sampleTachs_bare c
  | outputUpdate => exact updateOutputs_bare w c
  | console => exact pumpTerminal_bare w c
  | networkPoll | statusLed | display | watchdog => rfl

/-- Every task does on the bare board what it does on the recorded one. -/
theorem runTask_bare (w : Wiring β) (task : Task) (tick : Tick) (c : Controller (Recorded β)) :
    (c.runTask w.recorded task tick).bare = c.bare.runTask w task tick :=
  perTask_bare w _ task

end FanBoard.Controller
