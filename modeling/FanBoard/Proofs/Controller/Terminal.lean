import FanBoard.Bench.ProbeBoard
import FanBoard.Board.Hardware
import FanBoard.Proofs.Controller.Frame
import FanBoard.Proofs.Terminal.Trials

/-!
# The terminal of the controller

Where the bytes from the terminal wait in a queue on the board, the wire of the controller is a queue
too (`wire_queues`).  A line that is handed out touches the clock and the words of the lockout only
as its command does (`dispatch_still`), and the one command that does is a trial of the lockout.
-/

namespace FanBoard

variable {β : Type}

/-! ## Queues on the board -/

/-- The bytes from the terminal are a queue: reading takes the first one, and sending does not touch
it. -/
structure Board.Queues (b : Board β) (queue : β → List UInt8) : Prop where
  first : ∀ s, (b.readByte s).value = (queue s).head?
  rest : ∀ s, queue (b.readByte s).state = (queue s).tail
  write : ∀ bytes s, queue (b.write bytes s).state = queue s

theorem Hardware.board_queues : Hardware.board.Queues fun h => h.serial.queue where
  first h := by
    simp only [board, Serial.readByte]
    cases h.serial.queue <;> rfl
  rest h := by
    simp only [board, Serial.readByte]
    cases hqueue : h.serial.queue with
    | nil => exact hqueue
    | cons b queue => rfl
  write _ _ := rfl

theorem ProbeBoard.board_queues : ProbeBoard.board.Queues ProbeBoard.received where
  first p := by
    simp only [board, readByte]
    cases p.received <;> rfl
  rest p := by
    simp only [board, readByte]
    cases hreceived : p.received with
    | nil => exact hreceived
    | cons b received => rfl
  write _ _ := rfl

namespace Controller

/-! ## Events -/

/-- The settings, the clock and the words of the lockout are as they were. -/
structure Still (c c' : Controller β) : Prop where
  settings : c'.settings = c.settings
  clock : c'.shared.clock = c.shared.clock
  lockout : c'.shared.lockout = c.shared.lockout

theorem Still.refl (c : Controller β) : c.Still c :=
  ⟨rfl, rfl, rfl⟩

theorem Still.trans {c c' c'' : Controller β} (h : c.Still c') (h' : c'.Still c'') : c.Still c'' where
  settings := h'.settings.trans h.settings
  clock := h'.clock.trans h.clock
  lockout := h'.lockout.trans h.lockout

theorem perform_write_still (w : Wiring β) (c : Controller β) (bytes : List UInt8) :
    c.Still (c.perform w (.write bytes)) :=
  ⟨rfl, rfl, rfl⟩

theorem perform_note_still (w : Wiring β) (c : Controller β) (line : Log.Line) :
    c.Still (c.perform w (.note line)) :=
  ⟨rfl, rfl, rfl⟩

theorem foldl_sendLine_still (b : Board β) (answer : List String) (c : Controller β) :
    c.Still (answer.foldl (sendLine b) c) := by
  induction answer generalizing c with
  | nil => exact Still.refl c
  | cons line answer ih =>
    have hline : c.Still (c.sendLine b line) := ⟨rfl, rfl, rfl⟩
    exact hline.trans (ih (c.sendLine b line))

/-- Beside its answer a line does to the clock and the lockout what its command does. -/
theorem dispatch_still (w : Wiring β) (c : Controller β) (raw : List UInt8) :
    let ctx := (c.commands.process w.peer c.context (Utf8.decodeLossy raw)).2.2
    Still { c with shared := ctx.shared } (c.dispatch w raw) := by
  simp only [dispatch]
  generalize c.commands.process w.peer c.context (Utf8.decodeLossy raw) = result
  obtain ⟨commands, answer, ctx⟩ := result
  refine Still.trans ?_ (foldl_sendLine_still w.board answer _)
  exact ⟨rfl, rfl, rfl⟩

/-- A line that is no trial leaves the clock and the lockout alone. -/
theorem dispatch_other_still (w : Wiring β) (c : Controller β) {raw : List UInt8}
    (h : isTrial raw = false) : c.Still (c.dispatch w raw) := by
  refine Still.trans ?_ (dispatch_still w c raw)
  rw [isTrial, decide_eq_false_iff_not] at h
  simp only [Commands.process]
  split
  · rename_i command hparse
    cases command with
    | tryLockout => exact absurd hparse h
    | _ => exact ⟨rfl, rfl, rfl⟩
  · exact ⟨rfl, rfl, rfl⟩

/-- A trial takes over the clock and the words of its acquisition, and releases what it got. -/
theorem dispatch_trial (w : Wiring β) (c : Controller β) {raw : List UInt8} (h : isTrial raw = true)
    {verdict : Lockout.Verdict} {words : Lockout.Words} {clock : Clock}
    (hacquire : Lockout.acquire w.peer c.settings.lockoutTimeout c.shared.lockout c.shared.clock =
      ⟨verdict, words, clock⟩) :
    (c.dispatch w raw).settings = c.settings ∧ (c.dispatch w raw).shared.clock = clock ∧
      (c.dispatch w raw).shared.lockout = if verdict = .held then words.release else words := by
  obtain ⟨hsettings, hclock, hlockout⟩ := dispatch_still w c raw
  rw [hclock, hlockout]
  refine ⟨hsettings, ?_⟩
  rw [isTrial, decide_eq_true_iff] at h
  simp only [Commands.process, h, Command.answer, Command.answerLockout, Shared.acquire, context,
    hacquire]
  cases verdict with
  | held => exact ⟨rfl, rfl⟩
  | refused f => exact ⟨rfl, rfl⟩
  | waiting => exact ⟨rfl, rfl⟩

/-! ## The wire -/

theorem perform_board_queue {w : Wiring β} {queue : β → List UInt8} (h : w.board.Queues queue)
    (c : Controller β) (event : Event) : queue (c.perform w event).board = queue c.board := by
  have hsend : ∀ (c : Controller β) bytes, queue (c.send w.board bytes).board = queue c.board :=
    fun c bytes => h.write bytes c.board
  cases event with
  | write bytes => exact hsend c bytes
  | note line => rfl
  | dispatch raw =>
    simp only [perform, dispatch]
    refine List.foldlRecOn (motive := fun c' : Controller β => queue c'.board = queue c.board) _ _ rfl
      fun c' hc' line _ => ?_
    exact ((hsend _ _).trans (hsend _ _)).trans hc'

/-- Where the bytes wait in a queue on the board, the wire is a queue. -/
theorem wire_queues {w : Wiring β} {queue : β → List UInt8} (h : w.board.Queues queue) :
    (wire w).Queues fun c => queue c.board where
  first c := h.first c.board
  rest c := h.rest c.board
  perform c event := perform_board_queue h c event

end Controller

end FanBoard
