import FanBoard.Proofs.Controller.History
import FanBoard.Proofs.Controller.Settled
import FanBoard.Proofs.Number.Whole

/-!
# Every input depends on its own samples

The readings of an input are what counts of its samples, in the order of the history, without the
samples that failed.  The input follows them through its deadband, whatever the other inputs, the
outputs, the terminal and the curve do.

* `input_foldl_after` says that an input follows its readings.
* `inputs_follow_samples` is the result from the start.  Two runs with the same readings of an input
  agree on it, a sample that failed leaves its input as it was, and every header duty is whole.
-/

namespace FanBoard

/-! ## Readings -/

/-- What a happening gives an input to follow. -/
def Happening.reading (x : Input) : Happening → Option Float32
  | .sample ⟨x', .ok raw⟩ => if x' = x then some (x.reading raw) else none
  | .sample ⟨_, .error _⟩ | .call _ => none

/-- What a history gives an input to follow. -/
def readings (x : Input) (hs : List Happening) : List Float32 :=
  hs.filterMap (Happening.reading x)

section Readings

variable {x : Input}

@[simp] theorem readings_nil : readings x [] = [] := rfl

theorem readings_append (hs hs' : List Happening) :
    readings x (hs ++ hs') = readings x hs ++ readings x hs' :=
  List.filterMap_append

theorem readings_cons (h : Happening) (hs : List Happening) :
    readings x (h :: hs) = (h.reading x).toList ++ readings x hs := by
  cases hreading : h.reading x with
  | none => simp [readings, hreading]
  | some value => simp [readings, hreading]

/-- Where all samples of an input failed there is nothing to follow. -/
theorem readings_of_failed {hs : List Happening}
    (h : ∀ sample : Sample, .sample sample ∈ hs → sample.input = x → ∃ f, sample.result = .error f) :
    readings x hs = [] := by
  refine List.filterMap_eq_nil_iff.mpr fun happening hmem => ?_
  match happening, hmem with
  | .call _, _ => rfl
  | .sample ⟨_, .error _⟩, _ => rfl
  | .sample ⟨x', .ok raw⟩, hmem =>
    refine if_neg fun heq => ?_
    obtain ⟨f, hf⟩ := h _ hmem heq
    cases hf

theorem reading_header_whole {i : Fin headerCount} {h : Happening} {value : Float32}
    (hreading : h.reading (.header i) = some value) : Single.roundHalfAway value = value := by
  match h with
  | .call _ | .sample ⟨_, .error _⟩ => cases hreading
  | .sample ⟨x', .ok raw⟩ =>
    obtain ⟨_, heq⟩ := Option.ite_none_right_eq_some.mp hreading
    cases heq
    exact Single.roundHalfAway_roundHalfAway raw

end Readings

/-! ## Following the readings -/

namespace Signals

variable (t : Thresholds) (s : Signals)

theorem input_heed (call : OutputCall) (x : Input) : (s.heed call).input x = s.input x := by
  unfold heed
  split
  · split
    · exact s.input_setOutput _ _ x
    · rfl
  · split
    · exact s.input_setOutput _ _ x
    · rfl
  · rfl
  · rfl

/-- One happening. -/
theorem input_after (h : Happening) (x : Input) :
    (s.after t h).input x = Deadband.follow (t.input x) (s.input x) (h.reading x).toList := by
  match h with
  | .call call => exact s.input_heed call x
  | .sample ⟨_, .error _⟩ => rfl
  | .sample ⟨x', .ok raw⟩ =>
    by_cases hx : x' = x
    · subst hx
      simp only [after, take, Happening.reading, if_pos, Option.toList_some, Deadband.follow,
        List.foldl_cons, List.foldl_nil, Deadband.apply]
      split
      · exact s.input_setInput_self _ _
      · rfl
    · simp only [after, take, Happening.reading, if_neg hx, Option.toList_none, Deadband.follow,
        List.foldl_nil]
      split
      · exact s.input_setInput_of_ne _ (Ne.symm hx)
      · rfl

/-- An input follows its readings. -/
theorem input_foldl_after (hs : List Happening) (x : Input) :
    (hs.foldl (after t) s).input x =
      Deadband.follow (t.input x) (s.input x) (readings x hs) := by
  induction hs generalizing s with
  | nil => rfl
  | cons h hs ih =>
    rw [List.foldl_cons, ih, input_after, readings_cons, Deadband.follow_append]

theorem input_zero (x : Input) : zero.input x = 0 := by
  cases x with
  | header i | fan i | sensor i => exact Vector.getElem_replicate i.isLt

end Signals

namespace Controller

variable {β : Type}

theorem runTasks_input (c : Controller β) (runs : List (TaskRun β)) (x : Input) :
    (c.runTasks runs).signals.input x =
      Deadband.follow (c.settings.thresholds.input x) (c.signals.input x)
        (readings x (c.history runs)) := by
  have hfollows : c.Follows (fun _ _ _ => True) (c.history runs) (c.runTasks runs) :=
    runTasks_follows c runs fun _ _ _ _ _ _ => trivial
  rw [← Signals.clean_input, hfollows.signals, Signals.input_foldl_after, Signals.clean_input]

theorem runOne_input (c : Controller β) (r : TaskRun β) (x : Input) :
    (c.runOne r).signals.input x =
      Deadband.follow (c.settings.thresholds.input x) (c.signals.input x)
        (readings x (c.happenings r)) := by
  have hone := runTasks_input c [r] x
  rwa [history, history, List.append_nil] at hone

theorem start_input (board : β) (settings : Settings) (shared : Shared) (x : Input) :
    (start board settings shared).signals.input x = 0 :=
  Signals.input_zero x

/-- From the start and after any tasks every input has followed its own readings, through its own
threshold and from zero.  So any two runs, on whatever boards, that have the same threshold and the
same readings of an input agree on it.  A run of a task in which all samples of an input failed leaves
the input as it was.  The duties of the headers are whole. -/
theorem inputs_follow_samples (board : β) (settings : Settings) (shared : Shared)
    (runs : List (TaskRun β)) :
    let c := start board settings shared
    let signals := (c.runTasks runs).signals
    (∀ x, signals.input x =
        Deadband.follow (settings.thresholds.input x) 0 (readings x (c.history runs))) ∧
      (∀ (β' : Type) (board' : β') (settings' : Settings) (shared' : Shared)
          (runs' : List (TaskRun β')) (x : Input),
        let c' := start board' settings' shared'
        settings'.thresholds.input x = settings.thresholds.input x →
        readings x (c'.history runs') = readings x (c.history runs) →
        (c'.runTasks runs').signals.input x = signals.input x) ∧
      (∀ (next : TaskRun β) (x : Input),
        (∀ sample : Sample, .sample sample ∈ (c.runTasks runs).happenings next →
          sample.input = x → ∃ f, sample.result = .error f) →
        ((c.runTasks runs).runOne next).signals.input x = signals.input x) ∧
      ∀ i, Single.roundHalfAway (signals.headerDuty.get i) = signals.headerDuty.get i := by
  intro c signals
  have hfollow : ∀ x, signals.input x =
      Deadband.follow (settings.thresholds.input x) 0 (readings x (c.history runs)) := by
    intro x
    rw [← start_input board settings shared x]
    exact runTasks_input c runs x
  refine ⟨hfollow, ?_, ?_, ?_⟩
  · intro β' board' settings' shared' runs' x c' hthreshold hreadings
    rw [hfollow x, runTasks_input c' runs' x, start_input, hreadings, ← hthreshold]
    rfl
  · intro next x hfailed
    rw [runOne_input, readings_of_failed hfailed]
    rfl
  · intro i
    refine (congrArg _ (hfollow (.header i))).trans (Eq.trans ?_ (hfollow (.header i)).symm)
    refine Deadband.follow_keeps (P := fun v => Single.roundHalfAway v = v) (by decide) ?_
    intro value hvalue
    obtain ⟨h, _, hreading⟩ := List.mem_filterMap.mp hvalue
    exact reading_header_whole hreading

/-- A run of the duty task on the bench, when the headers give these samples. -/
def dutyRun (duties : Vector (Except SensorFault Float32) headerCount) : TaskRun ProbeBoard where
  wiring := transparentBench
  board p := { p with duties }
  shared := id
  task := .inputDuty
  tick := { now := 0, iteration := 1, maxLoop := 0 }

/-- The second header dies in one of two runs.  The first header does not take part in that. -/
theorem inputs_follow_samples_deadHeader :
    let bench := start ({} : ProbeBoard) {} { clock := Clock.stepping 0 1 }
    let runs := [dutyRun #v[.ok 35.4, .ok 20], dutyRun #v[.ok 50, .ok 80]]
    let runs' := [dutyRun #v[.ok 35.4, .ok 20], dutyRun #v[.ok 50, .error .noSignal]]
    readings (.header 0) (bench.history runs) = [35, 50] ∧
      readings (.header 0) (bench.history runs') = [35, 50] ∧
      (bench.runTasks runs').signals.input (.header 0) =
        (bench.runTasks runs).signals.input (.header 0) := by
  intro bench runs runs'
  have hreadings : readings (.header 0) (bench.history runs) = [35, 50] := by decide
  have hreadings' : readings (.header 0) (bench.history runs') = [35, 50] := by decide
  obtain ⟨_, hagree, _⟩ :=
    inputs_follow_samples ({} : ProbeBoard) {} { clock := Clock.stepping 0 1 } runs
  exact ⟨hreadings, hreadings',
    hagree ProbeBoard {} {} { clock := Clock.stepping 0 1 } runs' (.header 0) rfl
      (hreadings'.trans hreadings.symm)⟩

end Controller

end FanBoard
