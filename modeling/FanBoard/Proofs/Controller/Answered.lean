import FanBoard.Proofs.Controller.Numbers
import FanBoard.Proofs.Controller.Settled
import FanBoard.Proofs.Terminal.Answers
import FanBoard.Proofs.Terminal.Transcript

/-!
# Every line is answered

The controller serves the lines that its editor hands out.  It counts each of them once, as a command or
as a rejected line, and the editor counts it as well.  So the two counts agree after any run
(`runTasks_balanced`).

* `dispatch_commands`, `dispatch_sent`: a line that is handed out does to the counters what its command
  does, and the terminal is sent the answer.
* `LineEditor.turn_lines`: the editor counts the lines that it hands out.
* `sameCounters_runTask`: no task but the terminal touches a count.
* `commands_answer_once`: the result, for one line, for lines in order and for runs of the controller.
-/

namespace FanBoard

variable {β : Type}

/-! ## One line on the board -/

/-- What the board has sent to the terminal so far. -/
structure Board.Transmits (b : Board β) (sent : β → List UInt8) : Prop where
  write : ∀ bytes s, sent (b.write bytes s).state = sent s ++ bytes

theorem ProbeBoard.board_transmits : board.Transmits fun p => p.sent.toList where
  write bytes p := by simp [board, silently]

namespace Controller

theorem foldl_sendLine_commands (b : Board β) (answer : List String) (c : Controller β) :
    (answer.foldl (sendLine b) c).commands = c.commands := by
  induction answer generalizing c with
  | nil => rfl
  | cons line answer ih => exact ih (c.sendLine b line)

theorem foldl_sendLine_sent {b : Board β} {sent : β → List UInt8} (hboard : b.Transmits sent)
    (answer : List String) (c : Controller β) :
    sent (answer.foldl (sendLine b) c).board = sent c.board ++ reply answer := by
  induction answer generalizing c with
  | nil => exact (List.append_nil _).symm
  | cons line answer ih =>
    have hline : sent (c.sendLine b line).board =
        sent c.board ++ (Utf8.encode line ++ LineEditor.lineEnd) := by
      simp only [sendLine, send, after, hboard.write, List.append_assoc]
    rw [List.foldl_cons, ih, hline, List.append_assoc]
    rfl

section Dispatch

variable (w : Wiring β) (c : Controller β) (raw : List UInt8)

/-- A line that is handed out counts as its command counts. -/
theorem dispatch_commands :
    (c.dispatch w raw).commands =
      (c.commands.process w.peer c.context (Utf8.decodeLossy raw)).1 := by
  unfold dispatch
  generalize c.commands.process w.peer c.context (Utf8.decodeLossy raw) = result
  obtain ⟨commands, answer, ctx⟩ := result
  exact foldl_sendLine_commands w.board answer _

/-- The terminal is sent the answer. -/
theorem dispatch_sent {sent : β → List UInt8} (hboard : w.board.Transmits sent) :
    sent (c.dispatch w raw).board = sent c.board ++
      reply (c.commands.process w.peer c.context (Utf8.decodeLossy raw)).2.1 := by
  unfold dispatch
  generalize c.commands.process w.peer c.context (Utf8.decodeLossy raw) = result
  obtain ⟨commands, answer, ctx⟩ := result
  exact foldl_sendLine_sent hboard answer _

end Dispatch

end Controller

/-! ## Lines are counted -/

/-- The lines counted, in 32 bits. -/
def Commands.total (c : Commands) : UInt32 :=
  c.handled + c.rejected

theorem Commands.process_total (peer : Nat → Lockout.Words → Lockout.Words) (counters : Commands)
    (c : Context) (line : String) :
    (process peer counters c line).1.total = counters.total + 1 := by
  unfold process total
  cases Command.parse? line with
  | none => exact (UInt32.add_assoc _ _ _).symm
  | some command =>
    calc counters.handled + 1 + counters.rejected
      _ = counters.handled + (1 + counters.rejected) := UInt32.add_assoc _ _ _
      _ = counters.handled + (counters.rejected + 1) := by rw [UInt32.add_comm 1]
      _ = counters.handled + counters.rejected + 1 := (UInt32.add_assoc _ _ _).symm

namespace LineEditor

theorem flush_lines (e : LineEditor) :
    e.flush.1.lines = e.lines + UInt32.ofNat (Event.dispatched e.flush.2).length := by
  unfold flush
  split
  · simp [dispatch, Event.dispatched_append, Event.dispatched]
  · simp [Event.dispatched]

theorem accept_lines (e : LineEditor) (b : UInt8) :
    (e.accept b).1.lines = e.lines + UInt32.ofNat (Event.dispatched (e.accept b).2).length := by
  simp only [accept]
  split_ifs <;> simp [dispatch, Event.dispatched_append, Event.dispatched]

/-- The editor counts the lines that it hands out. -/
theorem turn_lines (e : LineEditor) (b : UInt8) :
    (e.feed b).1.flush.1.lines = e.lines + UInt32.ofNat (Event.dispatched (e.turn b)).length := by
  have hfeed : (e.feed b).1.lines =
      e.lines + UInt32.ofNat (Event.dispatched (e.feed b).2).length := by
    simp only [feed, accept_lines, flush_lines, Event.dispatched_append, List.length_append,
      UInt32.ofNat_add, UInt32.add_assoc]
  rw [flush_lines, hfeed, turn, Event.dispatched_append, List.length_append, UInt32.ofNat_add,
    UInt32.add_assoc]

end LineEditor

namespace Controller

theorem perform_total (w : Wiring β) (c : Controller β) (event : Event) :
    (c.perform w event).commands.total =
      c.commands.total + UInt32.ofNat (Event.dispatched [event]).length := by
  cases event with
  | write bytes => exact (UInt32.add_zero _).symm
  | note line => exact (UInt32.add_zero _).symm
  | dispatch raw =>
    rw [perform, dispatch_commands, Commands.process_total]
    rfl

/-- As many lines are counted as are handed out. -/
theorem performAll_total (w : Wiring β) (c : Controller β) (events : List Event) :
    ((wire w).performAll c events).commands.total =
      c.commands.total + UInt32.ofNat (Event.dispatched events).length := by
  induction events generalizing c with
  | nil => exact (UInt32.add_zero _).symm
  | cons event events ih =>
    have hperform := perform_total w c event
    rw [Event.dispatched_cons, List.length_append, UInt32.ofNat_add, ← UInt32.add_assoc, ← hperform]
    exact ih (c.perform w event)

/-- As many lines are counted as the editor handed out. -/
def Balanced (c : Controller β) : Prop :=
  c.commands.total = c.editor.lines

theorem Balanced.pumpTerminal {c : Controller β} (h : c.Balanced) (w : Wiring β) :
    (c.pumpTerminal w).Balanced := by
  -- While the terminal is pumped, the editor is beside the controller and not in it.
  have hpump : ((wire w).pump c.editor c).2.2.commands.total =
      ((wire w).pump c.editor c).2.1.lines := by
    refine Wire.pump_carries (P := fun (e : LineEditor) (c' : Controller β) =>
      c'.commands.total = e.lines) ?_ ?_ h
    · intro e c' c'' hread hc'
      have hc : ((wire w).readByte c').2 = c'' := congrArg Prod.snd hread
      rw [← hc]
      exact hc'
    · intro e c' c'' b hread hc'
      have hc : ((wire w).readByte c').2 = c'' := congrArg Prod.snd hread
      have htotal : c''.commands.total = e.lines := by
        rw [← hc]
        exact hc'
      rw [Wire.take_eq, performAll_total, LineEditor.turn_lines, htotal]
  exact hpump

/-! ## The other tasks -/

/-- The same counts. -/
structure SameCounters (c c' : Controller β) : Prop where
  commands : c'.commands = c.commands
  editor : c'.editor = c.editor

theorem aside_counters : Aside fun c : Controller β => (c.commands, c.editor) where
  after _ _ _ := rfl
  signals _ _ := rfl
  ledOn _ _ := rfl
  failure c f := by cases f <;> rfl
  write _ := rfl

/-- No task but the terminal touches a count. -/
theorem sameCounters_runTask (w : Wiring β) {task : Task} (tick : Tick) (htask : task ≠ .console)
    (c : Controller β) : c.SameCounters (c.runTask w task tick) := by
  have hsame := aside_counters.perTask w { c with metrics := c.metrics.observe tick } htask
  exact ⟨congrArg Prod.fst hsame, congrArg Prod.snd hsame⟩

/-! ## Runs of tasks -/

theorem Balanced.runOne {c : Controller β} (h : c.Balanced) (r : TaskRun β) :
    (c.runOne r).Balanced := by
  have hbefore : Balanced { c with board := r.board c.board, shared := r.shared c.shared } := h
  by_cases hconsole : r.task = .console
  · have hobserved : Balanced
        { c with
          board := r.board c.board
          shared := r.shared c.shared
          metrics := c.metrics.observe r.tick } := h
    rw [Controller.runOne, hconsole]
    exact hobserved.pumpTerminal r.wiring
  · obtain ⟨hcommands, heditor⟩ := sameCounters_runTask r.wiring r.tick hconsole
      { c with board := r.board c.board, shared := r.shared c.shared }
    rw [Balanced, Controller.runOne, hcommands, heditor]
    exact hbefore

/-- After any tasks as many lines are counted as were handed out. -/
theorem runTasks_balanced (board : β) (settings : Settings) (shared : Shared)
    (runs : List (TaskRun β)) : ((start board settings shared).runTasks runs).Balanced :=
  List.foldlRecOn runs runOne rfl fun _ hc r _ => hc.runOne r

/-! ## The result -/

/-- A line that is served beside a worker, on a clock that gets past the timeout of the lockout, is
answered once and disturbs nothing (`Commands.Serves`), and so are lines one after the other
(`Commands.ServedAll`).  A clock that moves on with every read is such a clock
(`Commands.serveAll_reaches`).  On a board the answer is what the terminal is sent, and after any run of
tasks the lines counted are those that the editor handed out. -/
theorem commands_answer_once :
    (∀ {peer : Nat → Lockout.Words → Lockout.Words} {c : Context}, Lockout.ByWorker peer →
      Lockout.Reaches c.shared.clock (Lockout.Caller.budget c.settings.lockoutTimeout) →
      ∀ (counters : Commands) (line : String),
        counters.Serves c line (counters.process peer c line)) ∧
    (∀ {s : Commands × Context} {requests : List Commands.Request},
      (∀ r ∈ requests, Lockout.ByWorker r.peer) →
      (∀ before, before <+: requests →
        Lockout.Reaches (Commands.serveAll s before).2.shared.clock
          (Lockout.Caller.budget s.2.settings.lockoutTimeout)) →
      Commands.ServedAll s (Commands.serveAll s requests) requests) ∧
    (∀ {w : Wiring β} {sent : β → List UInt8}, w.board.Transmits sent →
      ∀ (c : Controller β) (raw : List UInt8),
        let result := c.commands.process w.peer c.context (Utf8.decodeLossy raw)
        (c.dispatch w raw).commands = result.1 ∧
          sent (c.dispatch w raw).board = sent c.board ++ reply result.2.1) ∧
    ∀ (board : β) (settings : Settings) (shared : Shared) (runs : List (TaskRun β)),
      let c := (start board settings shared).runTasks runs
      c.commands.handled + c.commands.rejected = c.editor.lines :=
  ⟨fun hpeer hclock counters line => Commands.process_serves hpeer hclock counters line,
    fun hpeer hclock => Commands.serveAll_servedAll hpeer hclock,
    fun hboard c raw => ⟨dispatch_commands _ c raw, dispatch_sent _ c raw hboard⟩,
    runTasks_balanced⟩

/-- Three lines beside a worker that does nothing: a trial, a new limit of the log, and a limit that there
is not. -/
def threeLines : List Commands.Request :=
  ["sys:lockout", "SYS:DEBUG 4", "SYS:DEBUG 7"].map fun line => { line, peer := Lockout.idle }

/-- Two of them are commands, one is rejected, and the limit is the new one.  On the bench a question mark
is answered `ERR`. -/
theorem commands_answer_once_threeLines :
    (∀ r ∈ threeLines, Lockout.ByWorker r.peer) ∧
      (∀ before, before <+: threeLines →
        Lockout.Reaches (Commands.serveAll ({}, Commands.freshContext) before).2.shared.clock
          (Lockout.Caller.budget Commands.freshContext.settings.lockoutTimeout)) ∧
      (Commands.serveAll ({}, Commands.freshContext) threeLines).1.handled = 2 ∧
      (Commands.serveAll ({}, Commands.freshContext) threeLines).1.rejected = 1 ∧
      (Commands.serveAll ({}, Commands.freshContext) threeLines).2.shared.journal.limit =
        some .trace ∧
      Commands.Serves {} Commands.freshContext "sys:lockout"
        (Commands.process Lockout.idle {} Commands.freshContext "sys:lockout") ∧
      ((start {} {} Commands.freshContext.shared).dispatch transparentBench [0x3F]).board.sent.toList =
        errorReply := by
  have hidle : Lockout.ByWorker Lockout.idle :=
    ⟨fun _ _ => rfl, fun _ _ => rfl, fun _ _ => rfl, fun _ _ h => h⟩
  have hpeer : ∀ r ∈ threeLines, Lockout.ByWorker r.peer := by
    simpa [threeLines] using hidle
  have hticks : ∀ n, Commands.freshContext.shared.clock.reading n <
      Commands.freshContext.shared.clock.reading (n + 1) := fun n => Nat.lt_succ_self n
  have hclock : ∀ before, before <+: threeLines →
      Lockout.Reaches (Commands.serveAll ({}, Commands.freshContext) before).2.shared.clock
        (Lockout.Caller.budget Commands.freshContext.settings.lockoutTimeout) :=
    fun before _ => Commands.serveAll_reaches hticks before _
  obtain ⟨hone, hall, hsent, -⟩ := @commands_answer_once ProbeBoard
  have hserved := hall hpeer hclock
  have hhandled : threeLines.countP (fun r => (Command.parse? r.line).isSome) = 2 := by decide
  have hrejected : threeLines.countP (fun r => (Command.parse? r.line).isNone) = 1 := by decide
  have hlast : (threeLines.filterMap fun r => Command.askedLimit? r.line).getLast? =
      some .trace := by decide
  refine ⟨hpeer, hclock, ?_, ?_, ?_, ?_, ?_⟩
  · rw [hserved.handled, hhandled]
    rfl
  · rw [hserved.rejected, hrejected]
    rfl
  · rw [hserved.limit, hlast]
    rfl
  · exact hone hidle (hclock [] List.nil_prefix) {} "sys:lockout"
  · have hnone : Command.parse? (Utf8.decodeLossy [0x3F]) = none := by decide
    have hboard : transparentBench.board.Transmits fun p => p.sent.toList :=
      ProbeBoard.board_transmits
    have hreply := (hsent hboard (start {} {} Commands.freshContext.shared) [0x3F]).2
    rw [Commands.process, hnone] at hreply
    exact hreply.trans reply_error

end Controller

end FanBoard
