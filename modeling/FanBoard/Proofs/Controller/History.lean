import FanBoard.Proofs.Controller.Inputs
import FanBoard.Proofs.Controller.Numbers

/-!
# The history of a controller

What happens between a controller and its inputs and outputs are the samples that it takes and the
output calls that it makes.  The signals follow this history and nothing else.  Neither the terminal
nor the other tasks have a part in it.

* `Signals.after` is what one happening does to the signals.  A sample goes through the deadband of its
  input.  An output call is taken over if the board took it.
* `Controller.happenings` are the happenings of one run of a task.  The samples are what the board and
  the other core offer when the task begins, and the calls are what a board that keeps its calls has
  kept.
* `Follows` ties a history to the controllers before and after it: the signals follow, and every output
  is asked only for what is allowed at that moment.
* `runOne_follows` is one run of a task, and `runTasks_follows` a sequence of runs.
-/

namespace FanBoard

/-- What happens between a controller and its inputs and outputs. -/
inductive Happening where
  | sample (sample : Sample)
  | call (call : OutputCall)

namespace Signals

/-- The signals after an output call. -/
def heed (s : Signals) : OutputCall → Signals
  | .fan channel duty (.ok ()) =>
    if h : channel < fanCount then s.setOutput (.fan ⟨channel, h⟩) duty else s
  | .header channel hz (.ok ()) =>
    if h : channel < headerCount then s.setOutput (.header ⟨channel, h⟩) hz else s
  | .fan _ _ (.error _) | .header _ _ (.error _) => s

/-- The signals after a happening. -/
def after (t : Thresholds) (s : Signals) : Happening → Signals
  | .sample sample => s.take t sample
  | .call call => s.heed call

theorem heed_ok (s : Signals) (o : Output) (value : Float32) :
    s.heed (o.call value (.ok ())) = s.setOutput o value := by
  cases o with
  | fan i => exact dif_pos i.isLt
  | header i => exact dif_pos i.isLt

theorem heed_error (s : Signals) (o : Output) (value : Float32) (f : ActuatorFault) :
    s.heed (o.call value (.error f)) = s := by
  cases o <;> rfl

/-- The curve asks for this value at an output, and it is a change. -/
structure Wants (k : Curve) (t : Thresholds) (s : Signals) (o : Output) (value : Float32) :
    Prop where
  target : value = k.target s o
  changed : Deadband.changed (s.output o) value (t.output o) = true

end Signals

/-! ## Histories -/

/-- Every output call of a history, which begins with the signals `s`, asks for a value that is
allowed at that moment. -/
def Asks (allowed : Signals → Output → Float32 → Prop) (t : Thresholds) :
    Signals → List Happening → Prop
  | _, [] => True
  | s, h :: rest =>
    (∀ call, h = .call call → ∃ o value result, call = o.call value result ∧ allowed s o value) ∧
      Asks allowed t (s.after t h) rest

section Asks

variable {allowed allowed' : Signals → Output → Float32 → Prop} {t : Thresholds} {s : Signals}

theorem asks_append {xs ys : List Happening} :
    Asks allowed t s (xs ++ ys) ↔
      Asks allowed t s xs ∧ Asks allowed t (xs.foldl (Signals.after t) s) ys := by
  induction xs generalizing s with
  | nil => exact (and_iff_right trivial).symm
  | cons x xs ih => exact (and_congr_right fun _ => ih).trans and_assoc.symm

theorem Asks.mono (hallowed : ∀ s o value, allowed s o value → allowed' s o value)
    {hs : List Happening} (h : Asks allowed t s hs) : Asks allowed' t s hs := by
  induction hs generalizing s with
  | nil => trivial
  | cons x hs ih =>
    refine ⟨fun call heq => ?_, ih h.2⟩
    obtain ⟨o, value, result, hcall, hvalue⟩ := h.1 call heq
    exact ⟨o, value, result, hcall, hallowed _ _ _ hvalue⟩

theorem asks_call {o : Output} {value : Float32} (h : allowed s o value)
    (result : Except ActuatorFault Unit) : Asks allowed t s [.call (o.call value result)] :=
  ⟨fun _ heq => ⟨o, value, result, (Happening.call.inj heq).symm, h⟩, trivial⟩

theorem asks_samples (samples : List Sample) : Asks allowed t s (samples.map .sample) := by
  induction samples generalizing s with
  | nil => trivial
  | cons x samples ih => exact ⟨nofun, ih⟩

end Asks

namespace Controller

variable {β : Type}

/-- The second controller comes from the first by a history: the signals follow it, and the outputs
are asked only for what is allowed. -/
structure Follows (allowed : Signals → Output → Float32 → Prop) (hs : List Happening)
    (c c' : Controller β) : Prop where
  settings : c'.settings = c.settings
  signals : c'.signals.clean = hs.foldl (Signals.after c.settings.thresholds) c.signals.clean
  asks : Asks allowed c.settings.thresholds c.signals.clean hs

section Follows

variable {allowed allowed' : Signals → Output → Float32 → Prop} {c c' c'' : Controller β}

/-- What leaves the settings and the signals alone, a note apart, has no history. -/
theorem follows_nil (hsettings : c'.settings = c.settings)
    (hsignals : c'.signals.clean = c.signals.clean) : c.Follows allowed [] c' :=
  ⟨hsettings, hsignals, trivial⟩

theorem Follows.trans {xs ys : List Happening} (h : c.Follows allowed xs c')
    (h' : c'.Follows allowed ys c'') : c.Follows allowed (xs ++ ys) c'' where
  settings := h'.settings.trans h.settings
  signals := by rw [List.foldl_append, ← h.signals, ← h.settings, h'.signals]
  asks := asks_append.mpr ⟨h.asks, by rw [← h.signals, ← h.settings]; exact h'.asks⟩

theorem Follows.mono (hallowed : ∀ s o value, allowed s o value → allowed' s o value)
    {hs : List Happening} (h : c.Follows allowed hs c') : c.Follows allowed' hs c' :=
  { h with asks := h.asks.mono hallowed }

/-- Taking samples is a history. -/
theorem Took.follows {samples : List Sample} (h : c.Took samples c') :
    c.Follows allowed (samples.map .sample) c' where
  settings := h.settings
  signals := by rw [h.signals, List.foldl_map]; rfl
  asks := asks_samples samples

end Follows

/-! ## A pass over the outputs -/

/-- An update makes a call or none, and the signals follow it. -/
theorem update_follows (w : Wiring β) {c : Controller (Recorded β)} (o : Output)
    (hclean : c.signals.dirty = false) :
    ∃ calls, (c.update w.recorded o).board.calls = c.board.calls ++ calls ∧
      c.Follows (Signals.Wants w.curve c.settings.thresholds) (calls.map .call)
        (c.update w.recorded o) := by
  have hsame : c.signals.clean = c.signals := Signals.clean_of_not_dirty hclean
  rw [update_eq]
  split
  · rename_i hwants
    have hask : Signals.Wants w.curve c.settings.thresholds c.signals.clean o
        (w.curve.target c.signals o) := by
      rw [hsame]
      exact ⟨rfl, hwants⟩
    have hafter := update_dirty w c o
    rw [update_eq, if_pos hwants, hclean] at hafter
    rcases writeOutput_cases w.board c o (w.curve.target c.signals o) with
      ⟨hsignals, hcalls⟩ | ⟨f, hsignals, hcalls⟩
    · refine ⟨_, hcalls, writeOutput_settings _ _ _ _, ?_, asks_call hask _⟩
      rw [Signals.clean_of_not_dirty hafter, hsame]
      exact hsignals.trans (Signals.heed_ok _ _ _).symm
    · refine ⟨_, hcalls, writeOutput_settings _ _ _ _, ?_, asks_call hask _⟩
      rw [Signals.clean_of_not_dirty hafter, hsame]
      exact hsignals.trans (Signals.heed_error _ _ _ _).symm
  · exact ⟨[], (List.append_nil _).symm, follows_nil rfl rfl⟩

theorem foldl_update_follows (w : Wiring β) (os : List Output) {c : Controller (Recorded β)}
    (hclean : c.signals.dirty = false) :
    ∃ calls, (os.foldl (update w.recorded) c).board.calls = c.board.calls ++ calls ∧
      c.Follows (Signals.Wants w.curve c.settings.thresholds) (calls.map .call)
        (os.foldl (update w.recorded) c) := by
  induction os generalizing c with
  | nil => exact ⟨[], (List.append_nil _).symm, follows_nil rfl rfl⟩
  | cons o os ih =>
    obtain ⟨first, hfirst, hfollows⟩ := update_follows w o hclean
    obtain ⟨rest, hrest, hfollows'⟩ := ih (c := c.update w.recorded o) (by rwa [update_dirty])
    rw [update_settings] at hfollows'
    refine ⟨first ++ rest, ?_, ?_⟩
    · rw [List.foldl_cons, hrest, hfirst, List.append_assoc]
    · rw [List.map_append]
      exact hfollows.trans hfollows'

/-- A pass follows its own calls. -/
theorem updateOutputs_follows (w : Wiring β) {c : Controller (Recorded β)}
    (hcalls : c.board.calls = []) :
    c.Follows (Signals.Wants w.curve c.settings.thresholds)
      ((c.updateOutputs w.recorded).board.calls.map .call) (c.updateOutputs w.recorded) := by
  rw [updateOutputs_eq]
  obtain ⟨calls, hkept, hfollows⟩ := foldl_update_follows w Output.all (beginPass_dirty c)
  have hbegun : c.beginPass.board.calls = [] := hcalls
  rw [hkept, hbegun, List.nil_append]
  exact ⟨hfollows.settings, hfollows.signals, hfollows.asks⟩

/-! ## Runs of tasks -/

/-- The controller on a board that keeps its output calls and has kept none. -/
def recording (c : Controller β) : Controller (Recorded β) where
  board := { board := c.board }
  settings := c.settings
  signals := c.signals
  commands := c.commands
  editor := c.editor
  ledOn := c.ledOn
  metrics := c.metrics
  shared := c.shared

/-- The controller when a run of a task begins. -/
def meeting (c : Controller β) (r : TaskRun β) : Controller β :=
  { c with board := r.board c.board, shared := r.shared c.shared }

/-- What happens in a run of a task: the samples that it takes and the output calls that it makes. -/
def happenings (c : Controller β) (r : TaskRun β) : List Happening :=
  ((c.meeting r).samples r.wiring r.task).map .sample ++
    (c.recording.runOne r.recorded).board.calls.map .call

/-- What happens in runs of tasks one after the other. -/
def history (c : Controller β) : List (TaskRun β) → List Happening
  | [] => []
  | r :: runs => c.happenings r ++ (c.runOne r).history runs

theorem runOne_recording (c : Controller β) (r : TaskRun β) :
    (c.recording.runOne r.recorded).bare = c.runOne r :=
  runTask_bare r.wiring r.task r.tick _

/-- The output update makes its calls and takes no samples. -/
theorem outputUpdate_follows (c : Controller β) (r : TaskRun β) (hupdate : r.task = .outputUpdate) :
    c.Follows (Signals.Wants r.wiring.curve c.settings.thresholds) (c.happenings r)
      (c.runOne r) := by
  let begun : Controller (Recorded β) :=
    { c.recording.meeting r.recorded with metrics := c.metrics.observe r.tick }
  have hrun : c.recording.runOne r.recorded = begun.updateOutputs r.wiring.recorded := by
    simp only [runOne, runTask, TaskRun.recorded, hupdate]
    rfl
  have hsamples : (c.meeting r).samples r.wiring r.task = [] := by rw [hupdate]; rfl
  have hpass := updateOutputs_follows r.wiring (c := begun) rfl
  rw [← hrun] at hpass
  rw [happenings, hsamples, ← runOne_recording c r]
  exact ⟨hpass.settings, hpass.signals, hpass.asks⟩

/-- A task that makes no calls leaves only its samples. -/
theorem happenings_of_ne (c : Controller β) (r : TaskRun β) (hupdate : r.task ≠ .outputUpdate) :
    c.happenings r = ((c.meeting r).samples r.wiring r.task).map .sample := by
  have hcalls : (c.recording.runOne r.recorded).board.calls = [] :=
    (noticed_runTask r.wiring r.tick hupdate (c.recording.meeting r.recorded)).calls
  rw [happenings, hcalls, List.map_nil, List.append_nil]

/-- One run of a task. -/
theorem runOne_follows (c : Controller β) (r : TaskRun β) :
    c.Follows (Signals.Wants r.wiring.curve c.settings.thresholds) (c.happenings r)
      (c.runOne r) := by
  by_cases hupdate : r.task = .outputUpdate
  · exact outputUpdate_follows c r hupdate
  rw [happenings_of_ne c r hupdate]
  by_cases hsampling : r.task ∈ [.inputDuty, .temperature, .inputTach]
  · let begun : Controller β := { c.meeting r with metrics := c.metrics.observe r.tick }
    have hsamples : begun.samples r.wiring r.task = (c.meeting r).samples r.wiring r.task := by
      cases r.task <;> rfl
    have htook : c.Took (begun.samples r.wiring r.task) (c.runOne r) :=
      (perTask_took r.wiring begun hsampling).since rfl rfl
    rw [← hsamples]
    exact htook.follows
  · have hother := neither_samples_nor_updates hsampling hupdate
    have hsame := undisturbed_runTask r.wiring r.tick hother (c.recording.meeting r.recorded)
    have hsamples := (c.meeting r).samples_eq_nil r.wiring hsampling
    rw [hsamples, ← runOne_recording c r]
    exact follows_nil hsame.settings (congrArg Signals.clean hsame.signals)

/-- Runs of tasks, each with a curve that asks only for what is allowed. -/
theorem runTasks_follows {allowed : Signals → Output → Float32 → Prop} (c : Controller β)
    (runs : List (TaskRun β))
    (hallowed : ∀ r ∈ runs, ∀ s o value,
      Signals.Wants r.wiring.curve c.settings.thresholds s o value → allowed s o value) :
    c.Follows allowed (c.history runs) (c.runTasks runs) := by
  induction runs generalizing c with
  | nil => exact follows_nil rfl rfl
  | cons r runs ih =>
    have hfirst := (runOne_follows c r).mono (hallowed r List.mem_cons_self)
    refine hfirst.trans (ih (c.runOne r) fun r' hr' => ?_)
    rw [hfirst.settings]
    exact hallowed r' (List.mem_cons_of_mem r hr')

end Controller

end FanBoard
