import FanBoard.Proofs.Controller.History
import Mathlib.Data.List.Basic
import Mathlib.Data.List.TakeWhile

/-!
# What the outputs hold

An output among the signals holds the value that the board accepted last, and a call that the board
refused leaves no trace there.  A pass gives every output its turn, whatever became of the calls
before.

* `Output.lastAccepted` is the value that an output accepted last in a history, and
  `runTasks_output` says that the output holds it.
* `writeOutput_of_ok` and `writeOutput_of_error` are the two ends of a call.
* `tried` is the call that an output gets when its turn comes: one if its target is a change then,
  and none otherwise.  `happenings_outputUpdate` says that a pass is these calls and nothing else.
-/

namespace FanBoard

/-! ## The value accepted last -/

namespace Output

/-- The value that an output accepted in a happening. -/
def accepted? : Output → Happening → Option Float32
  | .fan i, .call (.fan channel duty (.ok ())) => if channel = i.val then some duty else none
  | .header i, .call (.header channel hz (.ok ())) => if channel = i.val then some hz else none
  | _, _ => none

/-- The value that an output accepted last in a history, and zero if it accepted none. -/
def lastAccepted (o : Output) (hs : List Happening) : Float32 :=
  (hs.filterMap o.accepted?).getLast?.getD 0

theorem accepted?_sample (o : Output) (sample : Sample) : o.accepted? (.sample sample) = none := by
  cases o <;> rfl

end Output

namespace Signals

variable (t : Thresholds) (s : Signals) (o : Output)

@[simp] theorem clean_output : s.clean.output o = s.output o := by
  cases o <;> rfl

theorem output_take (sample : Sample) : (s.take t sample).output o = s.output o := by
  unfold take
  split
  · rfl
  · simp only [apply_ite (output · o), output_setInput, ite_self]

/-- A call changes the output that accepted it, and no other. -/
theorem output_heed (call : OutputCall) :
    (s.heed call).output o = (o.accepted? (.call call)).getD (s.output o) := by
  match call with
  | .fan channel duty (.error f) | .header channel hz (.error f) => cases o <;> rfl
  | .fan channel duty (.ok ()) =>
    cases o with
    | header i =>
      simp only [heed, Output.accepted?, Option.getD_none]
      split <;> rfl
    | fan i =>
      by_cases hi : channel = i.val
      · subst hi
        simp only [heed, i.isLt, dif_pos, Output.accepted?, if_true, Option.getD_some]
        exact s.output_setOutput_self (.fan i) duty
      · simp only [heed, Output.accepted?, if_neg hi, Option.getD_none]
        split
        · rename_i hfan
          exact s.output_setOutput_of_ne duty fun heq => hi (by cases heq; rfl)
        · rfl
  | .header channel hz (.ok ()) =>
    cases o with
    | fan i =>
      simp only [heed, Output.accepted?, Option.getD_none]
      split <;> rfl
    | header i =>
      by_cases hi : channel = i.val
      · subst hi
        simp only [heed, i.isLt, dif_pos, Output.accepted?, if_true, Option.getD_some]
        exact s.output_setOutput_self (.header i) hz
      · simp only [heed, Output.accepted?, if_neg hi, Option.getD_none]
        split
        · rename_i hheader
          exact s.output_setOutput_of_ne hz fun heq => hi (by cases heq; rfl)
        · rfl

theorem output_after (h : Happening) :
    (s.after t h).output o = (o.accepted? h).getD (s.output o) := by
  cases h with
  | call call => exact s.output_heed o call
  | sample sample =>
    rw [o.accepted?_sample]
    exact s.output_take t o sample

/-- An output holds what it accepted last. -/
theorem output_foldl_after (hs : List Happening) :
    (hs.foldl (after t) s).output o =
      (hs.filterMap o.accepted?).getLast?.getD (s.output o) := by
  induction hs generalizing s with
  | nil => rfl
  | cons h hs ih =>
    rw [List.foldl_cons, ih, output_after]
    cases haccepted : o.accepted? h with
    | none => rw [List.filterMap_cons_none haccepted, Option.getD_none]
    | some value =>
      rw [List.filterMap_cons_some haccepted, List.getLast?_cons, Option.getD_some,
        Option.getD_some]

theorem output_zero : zero.output o = 0 := by
  cases o with
  | fan i | header i => exact Vector.getElem_replicate i.isLt

end Signals

namespace Controller

variable {β : Type}

theorem runTasks_output (c : Controller β) (runs : List (TaskRun β)) (o : Output) :
    (c.runTasks runs).signals.output o =
      ((c.history runs).filterMap o.accepted?).getLast?.getD (c.signals.output o) := by
  have hfollows : c.Follows (fun _ _ _ => True) (c.history runs) (c.runTasks runs) :=
    runTasks_follows c runs fun _ _ _ _ _ _ => trivial
  rw [← Signals.clean_output, hfollows.signals, Signals.output_foldl_after, Signals.clean_output]

end Controller

/-! ## One call -/

/-- Asks for a value at an output. -/
def Board.ask {β : Type} (b : Board β) (o : Output) (value : Float32) (hardware : β) :
    Outcome β (Except ActuatorFault Unit) :=
  match o with
  | .fan i => b.setFanDuty i value hardware
  | .header i => b.setHeaderTach i value hardware

namespace Controller

variable {β : Type}

section Write

variable (b : Board β) (c : Controller β) {o : Output} {value : Float32}

theorem writeOutput_of_ok (h : (b.ask o value c.board).value = .ok ()) :
    (c.writeOutput b o value).signals = c.signals.setOutput o value := by
  cases o with
  | fan i =>
    have hwrite : (b.setFanDuty i value c.board).value = .ok () := h
    simp only [writeOutput, writeFan, hwrite]
    rfl
  | header i =>
    have hwrite : (b.setHeaderTach i value c.board).value = .ok () := h
    simp only [writeOutput, writeHeader, hwrite]
    rfl

/-- A call that the board refused changes no signal. -/
theorem writeOutput_of_error {f : ActuatorFault} (h : (b.ask o value c.board).value = .error f) :
    (c.writeOutput b o value).signals = c.signals := by
  cases o with
  | fan i =>
    have hwrite : (b.setFanDuty i value c.board).value = .error f := h
    simp only [writeOutput, writeFan, hwrite, recordFailure_signals, after_signals]
  | header i =>
    have hwrite : (b.setHeaderTach i value c.board).value = .error f := h
    simp only [writeOutput, writeHeader, hwrite, recordFailure_signals, after_signals]

/-- A write is one call. -/
theorem writeOutput_calls (b : Board β) (c : Controller (Recorded β)) (o : Output)
    (value : Float32) :
    (c.writeOutput b.recorded o value).board.calls =
      c.board.calls ++ [o.call value (b.ask o value c.board.board).value] := by
  cases o with
  | fan i =>
    simp only [writeOutput, writeFan, Board.recorded, Recorded.keeping_value]
    split <;> simp [Output.call, Board.ask]
  | header i =>
    simp only [writeOutput, writeHeader, Board.recorded, Recorded.keeping_value]
    split <;> simp [Output.call, Board.ask]

end Write

/-! ## A pass -/

/-- The call that an output gets when its turn comes: none if its target is no change. -/
def tried (w : Wiring β) (c : Controller β) (o : Output) : Option OutputCall :=
  if c.wants w.curve o then
    let target := w.curve.target c.signals o
    some (o.call target (w.board.ask o target c.board).value)
  else none

theorem tried_of_wants (w : Wiring β) (c : Controller β) {o : Output}
    (h : c.wants w.curve o = true) :
    ∃ result, c.tried w o = some (o.call (w.curve.target c.signals o) result) :=
  ⟨(w.board.ask o (w.curve.target c.signals o) c.board).value, if_pos h⟩

/-- The controller when the turn of an output comes, in a pass over some outputs. -/
def turn (w : Wiring β) (c : Controller β) (os : List Output) (o : Output) : Controller β :=
  (os.takeWhile (· ≠ o)).foldl (update w) c

theorem update_bare (w : Wiring β) (c : Controller (Recorded β)) (o : Output) :
    (c.update w.recorded o).bare = c.bare.update w o := by
  cases o with
  | fan i => exact updateFan_bare w c i
  | header i => exact updateHeader_bare w c i

theorem update_calls (w : Wiring β) (c : Controller (Recorded β)) (o : Output) :
    (c.update w.recorded o).board.calls = c.board.calls ++ (c.bare.tried w o).toList := by
  by_cases hwants : c.wants w.curve o = true
  · have hbare : c.bare.wants w.curve o = true := hwants
    rw [update_eq, tried, if_pos hbare, Wiring.recorded, if_pos hwants]
    exact writeOutput_calls w.board c o _
  · have hbare : ¬c.bare.wants w.curve o = true := hwants
    rw [update_eq, tried, if_neg hbare, Wiring.recorded, if_neg hwants]
    exact (List.append_nil _).symm

/-- The calls of a pass over some outputs are those that the outputs get in their turns. -/
theorem foldl_update_calls (w : Wiring β) {os : List Output} (hnodup : os.Nodup)
    (c : Controller (Recorded β)) :
    (os.foldl (update w.recorded) c).board.calls =
      c.board.calls ++ os.filterMap fun o => (c.bare.turn w os o).tried w o := by
  induction os generalizing c with
  | nil => exact (List.append_nil _).symm
  | cons a os ih =>
    obtain ⟨hnew, hrest⟩ := List.nodup_cons.mp hnodup
    have hfirst : c.bare.turn w (a :: os) a = c.bare := by simp [turn]
    have hlater : ∀ o ∈ os,
        c.bare.turn w (a :: os) o = (c.update w.recorded a).bare.turn w os o := by
      intro o ho
      have hne : a ≠ o := fun heq => hnew (heq ▸ ho)
      simp [turn, hne, update_bare]
    have htail : os.filterMap (fun o => (c.bare.turn w (a :: os) o).tried w o) =
        os.filterMap fun o => ((c.update w.recorded a).bare.turn w os o).tried w o :=
      List.filterMap_congr fun o ho => by rw [hlater o ho]
    rw [List.foldl_cons, ih hrest, update_calls, List.append_assoc, List.filterMap_cons, hfirst,
      htail]
    cases c.bare.tried w a <;> rfl

/-- The controller at the beginning of the pass of a run. -/
def passStart (c : Controller β) (r : TaskRun β) : Controller β :=
  { c.meeting r with metrics := c.metrics.observe r.tick }.beginPass

/-- The calls of a run of the output update: every output gets its turn, and is tried if its target
is a change then. -/
theorem runOne_calls (c : Controller β) (r : TaskRun β) (hupdate : r.task = .outputUpdate) :
    (c.recording.runOne r.recorded).board.calls =
      Output.all.filterMap fun o =>
        ((c.passStart r).turn r.wiring Output.all o).tried r.wiring o := by
  have hnodup : Output.all.Nodup := by decide
  let begun : Controller (Recorded β) :=
    { c.recording.meeting r.recorded with metrics := c.metrics.observe r.tick }
  have hrun : c.recording.runOne r.recorded = begun.updateOutputs r.wiring.recorded := by
    simp only [runOne, runTask, TaskRun.recorded, hupdate]
    rfl
  rw [hrun, updateOutputs_eq, foldl_update_calls r.wiring hnodup]
  rfl

/-- Nothing but these calls happens in a run of the output update. -/
theorem happenings_outputUpdate (c : Controller β) (r : TaskRun β)
    (hupdate : r.task = .outputUpdate) :
    c.happenings r =
      (Output.all.filterMap fun o =>
        ((c.passStart r).turn r.wiring Output.all o).tried r.wiring o).map .call := by
  have hsamples : (c.meeting r).samples r.wiring r.task = [] := by rw [hupdate]; rfl
  rw [happenings, hsamples, runOne_calls c r hupdate]
  rfl

/-- An output whose target is a change when its turn comes is asked for it. -/
theorem asked_of_wants (c : Controller β) (r : TaskRun β) (hupdate : r.task = .outputUpdate)
    {o : Output}
    (hwants : ((c.passStart r).turn r.wiring Output.all o).wants r.wiring.curve o = true) :
    ∃ result, .call (o.call
      (r.wiring.curve.target ((c.passStart r).turn r.wiring Output.all o).signals o) result) ∈
        c.happenings r := by
  obtain ⟨result, htried⟩ := tried_of_wants r.wiring _ hwants
  refine ⟨result, ?_⟩
  rw [happenings_outputUpdate c r hupdate]
  exact List.mem_map_of_mem (List.mem_filterMap.mpr ⟨o, o.mem_all, htried⟩)

/-- The turn of an output finds it as the pass found it, and the settings too. -/
theorem turn_keeps (w : Wiring β) (c : Controller β) (os : List Output) (o : Output) :
    (c.turn w os o).signals.output o = c.signals.output o ∧
      (c.turn w os o).settings = c.settings := by
  refine List.foldlRecOn (os.takeWhile (· ≠ o)) (update w)
    (motive := fun c' => c'.signals.output o = c.signals.output o ∧ c'.settings = c.settings)
    ⟨rfl, rfl⟩ ?_
  rintro c' ⟨houtput, hsettings⟩ other hother
  have hne : other ≠ o := by simpa using List.mem_takeWhile_imp hother
  rw [← houtput, ← hsettings, update_eq]
  split
  · refine ⟨?_, writeOutput_settings _ _ _ _⟩
    cases hanswer : (w.board.ask other (w.curve.target c'.signals other) c'.board).value with
    | ok => rw [writeOutput_of_ok _ _ hanswer, Signals.output_setOutput_of_ne _ _ hne.symm]
    | error f => rw [writeOutput_of_error _ _ hanswer]
  · exact ⟨rfl, rfl⟩

end Controller

end FanBoard
