import FanBoard.Proofs.Controller.Inputs
import FanBoard.Proofs.Terminal.Pump
import Mathlib.Logic.Relation

/-!
# The parts of a task

The sampling tasks are made of five kinds of parts, and the terminal task of five others.  What every
part keeps, the task keeps.

* `SamplingPart` is a part of a sampling task, and `sampling_parts` takes these tasks apart.
* `TerminalPart` is a part of the terminal task, and `terminal_parts` takes it apart.
* `Aside.perTask`: what only the terminal or nobody touches is as it was after every other task.
-/

namespace FanBoard

open Relation (ReflTransGen)

variable {β : Type}

/-- No command touches the signals. -/
theorem Commands.process_signals (peer : Nat → Lockout.Words → Lockout.Words) (counters : Commands)
    (c : Context) (line : String) : (counters.process peer c line).2.2.signals = c.signals := by
  simp only [process]
  split
  · rename_i command heq
    cases command with
    | tryLockout =>
      simp only [Command.answer, Command.answerLockout]
      split <;> rfl
    | _ => rfl
  · rfl

namespace Controller

/-! ## Sampling -/

/-- A part of a sampling task on a board. -/
inductive SamplingPart (b : Board β) : Controller β → Controller β → Prop where
  | noted (c : Controller β) (level : Log.Level) (message : String) :
      SamplingPart b c (c.note level message)
  | sampled (c : Controller β) : SamplingPart b c (c.after (b.sampleDuties c.board))
  | read (c : Controller β) (i : Fin sensorCount) :
      SamplingPart b c (c.after (b.readTemperature i c.board))
  | failed (c : Controller β) (source : String) (f : SensorFault) :
      SamplingPart b c (c.recordFailure source (.sensor f))
  /-- Only a number is taken over at an input. -/
  | taken (c : Controller β) (x : Input) {value : Float32} (hvalue : value.isNaN = false) :
      SamplingPart b c { c with signals := (c.signals.setInput x value).markDirty }

theorem parts_foldl {R : Controller β → Controller β → Prop} {ι : Type}
    {step : Controller β → ι → Controller β} (h : ∀ c i, ReflTransGen R c (step c i)) (l : List ι)
    (c : Controller β) : ReflTransGen R c (l.foldl step c) :=
  List.foldlRecOn l step ReflTransGen.refl fun c' hc' i _ => hc'.trans (h c' i)

section Take

variable (b : Board β) (c : Controller β)

theorem takeDuty_parts (i : Fin headerCount) (sample : Except SensorFault Float32) :
    ReflTransGen (SamplingPart b) c (c.takeDuty i sample) := by
  cases sample with
  | error f => exact .single (.failed c _ f)
  | ok raw =>
    simp only [takeDuty]
    split
    · exact .refl
    · rename_i heq
      exact (ReflTransGen.single (.noted c _ _)).tail
        (.taken _ (.header i) (Deadband.isNaN_of_apply heq))

theorem takeTemperature_parts (i : Fin sensorCount) (sample : Except SensorFault Float32) :
    ReflTransGen (SamplingPart b) c (c.takeTemperature i sample) := by
  cases sample with
  | error f => exact .single (.failed c _ f)
  | ok t =>
    simp only [takeTemperature]
    split
    · exact .refl
    · rename_i heq
      exact (ReflTransGen.single (.noted c _ _)).tail
        (.taken _ (.sensor i) (Deadband.isNaN_of_apply heq))

theorem takeTach_parts (i : Fin fanCount) (hz : Float32) :
    ReflTransGen (SamplingPart b) c (c.takeTach i hz) := by
  simp only [takeTach]
  split
  · exact .refl
  · rename_i heq
    exact (ReflTransGen.single (.noted c _ _)).tail (.taken _ (.fan i) (Deadband.isNaN_of_apply heq))

end Take

/-- The sampling tasks are made of these parts. -/
theorem sampling_parts (w : Wiring β) (c : Controller β) {task : Task}
    (htask : task ∈ [.inputDuty, .temperature, .inputTach]) :
    ReflTransGen (SamplingPart w.board) c (c.perTask w task) := by
  cases task with
  | inputDuty =>
    have hnoted : ReflTransGen (SamplingPart w.board) c (c.note .debug "Read PWM inputs") :=
      .single (.noted c _ _)
    exact (hnoted.tail (.sampled _)).trans (parts_foldl (fun c i => takeDuty_parts _ c i _) _ _)
  | temperature =>
    have hnoted : ReflTransGen (SamplingPart w.board) c (c.note .debug "Read temperature sensors") :=
      .single (.noted c _ _)
    have hsensor : ∀ c i, ReflTransGen (SamplingPart w.board) c (c.sampleTemperature w.board i) :=
      fun c i => (ReflTransGen.single (.read c i)).trans (takeTemperature_parts _ _ i _)
    exact hnoted.trans (parts_foldl hsensor _ _)
  | inputTach =>
    have hnoted : ReflTransGen (SamplingPart w.board) c
        (c.note .debug "Updating tacho input signals.") := .single (.noted c _ _)
    exact hnoted.trans (parts_foldl (fun c i => takeTach_parts _ c i _) _ _)
  | networkPoll | statusLed | display | outputUpdate | console | watchdog => simp at htask

/-! ## The terminal -/

/-- A part of the terminal task. -/
inductive TerminalPart (w : Wiring β) : Controller β → Controller β → Prop where
  | read (c : Controller β) : TerminalPart w c (c.after (w.board.readByte c.board))
  | sent (c : Controller β) (bytes : List UInt8) : TerminalPart w c (c.send w.board bytes)
  | noted (c : Controller β) (line : Log.Line) :
      TerminalPart w c { c with shared := c.shared.note line }
  /-- A command touches the counters and what the cores share. -/
  | served (c : Controller β) (commands : Commands) (shared : Shared) :
      TerminalPart w c { c with commands, shared }
  | edited (c : Controller β) (editor : LineEditor) : TerminalPart w c { c with editor }

theorem dispatch_parts (w : Wiring β) (c : Controller β) (raw : List UInt8) :
    ReflTransGen (TerminalPart w) c (c.dispatch w raw) := by
  have hsignals := c.commands.process_signals w.peer c.context (Utf8.decodeLossy raw)
  simp only [dispatch]
  generalize c.commands.process w.peer c.context (Utf8.decodeLossy raw) = result at hsignals ⊢
  obtain ⟨commands, answer, ctx⟩ := result
  have hctx : ctx.signals = c.signals := hsignals
  rw [hctx]
  have hline : ∀ c line, ReflTransGen (TerminalPart w) c (c.sendLine w.board line) := by
    intro c line
    rw [sendLine]
    exact (ReflTransGen.single (.sent c (Utf8.encode line))).tail (.sent _ LineEditor.lineEnd)
  have hserved : ReflTransGen (TerminalPart w) c { c with commands, shared := ctx.shared } :=
    .single (.served c commands ctx.shared)
  exact hserved.trans (parts_foldl hline answer _)

theorem perform_parts (w : Wiring β) (c : Controller β) (event : Event) :
    ReflTransGen (TerminalPart w) c (c.perform w event) := by
  cases event with
  | write bytes => exact .single (.sent c bytes)
  | note line => exact .single (.noted c line)
  | dispatch raw => exact dispatch_parts w c raw

/-- The terminal task is made of these parts. -/
theorem terminal_parts (w : Wiring β) (c : Controller β) :
    ReflTransGen (TerminalPart w) c (c.pumpTerminal w) := by
  have hpump : ReflTransGen (TerminalPart w) c ((wire w).pump c.editor c).2.2 :=
    Wire.pump_keeps (P := ReflTransGen (TerminalPart w) c) (fun c' hc' => hc'.tail (.read c'))
      (fun c' event hc' => hc'.trans (perform_parts w c' event)) c.editor .refl
  exact hpump.tail (.edited _ _)

/-! ## What the tasks leave alone -/

/-- A part of the controller beside the board, what the cores share, the signals, the light and the
counts of failures and writes. -/
structure Aside {α : Type} (f : Controller β → α) : Prop where
  after : ∀ c board shared, f { c with board, shared } = f c
  signals : ∀ c signals, f { c with signals } = f c
  ledOn : ∀ c ledOn, f { c with ledOn } = f c
  failure : ∀ c fault, f (c.countFailure fault) = f c
  write : ∀ c, f c.countWrite = f c

namespace Aside

variable {α : Type} {f : Controller β → α} (h : Aside f)

include h

theorem recordFailure (c : Controller β) (source : String) (fault : Fault) :
    f (c.recordFailure source fault) = f c :=
  (h.failure _ fault).trans (h.after c _ _)

theorem sampling (w : Wiring β) (c : Controller β) {task : Task}
    (htask : task ∈ [.inputDuty, .temperature, .inputTach]) : f (c.perTask w task) = f c := by
  refine ReflTransGen.trans_induction_on (motive := fun {c c'} _ => f c' = f c)
    (sampling_parts w c htask) (fun _ => rfl) (fun part => ?_) fun _ _ h h' => h'.trans h
  cases part with
  | noted | sampled | read => exact h.after _ _ _
  | failed source fault => exact h.recordFailure _ source _
  | taken => exact h.signals _ _

theorem writeOutput (b : Board β) (c : Controller β) (o : Output) (target : Float32) :
    f (c.writeOutput b o target) = f c := by
  cases o with
  | fan i =>
    simp only [Controller.writeOutput, writeFan]
    split
    · exact (h.write _).trans ((h.signals _ _).trans (h.after c _ _))
    · exact (h.recordFailure _ _ _).trans (h.after c _ _)
  | header i =>
    simp only [Controller.writeOutput, writeHeader]
    split
    · exact (h.write _).trans ((h.signals _ _).trans (h.after c _ _))
    · exact (h.recordFailure _ _ _).trans (h.after c _ _)

theorem updateOutputs (w : Wiring β) (c : Controller β) : f (c.updateOutputs w) = f c := by
  have hbegin : f c.beginPass = f c := (h.signals _ _).trans (h.after c _ _)
  rw [updateOutputs_eq]
  refine List.foldlRecOn (motive := fun c' => f c' = f c) _ _ hbegin fun c' hc' o _ => ?_
  rw [update_eq]
  split
  · exact (h.writeOutput w.board c' o _).trans hc'
  · exact hc'

/-- Every task but the terminal leaves it alone. -/
theorem perTask (w : Wiring β) (c : Controller β) {task : Task} (htask : task ≠ .console) :
    f (c.perTask w task) = f c := by
  cases task with
  | console => exact absurd rfl htask
  | networkPoll | display | watchdog => exact h.after c _ _
  | statusLed => exact (h.after _ _ _).trans (h.ledOn c _)
  | inputDuty | temperature | inputTach => exact h.sampling w c (by simp)
  | outputUpdate => exact h.updateOutputs w c

end Aside

end Controller

end FanBoard
