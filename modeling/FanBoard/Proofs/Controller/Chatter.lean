import FanBoard.Proofs.Controller.Readings

/-!
# The outputs do not chatter

On a transparent board every output shows one input, its source.  An output is written only when its
source has changed since it was last written, however often the outputs are updated and whatever calls
the board refuses.

* `Signals.owed` is one while an output does not show its source, and zero when it does.
* `step_paid` says that a change of the source pays for what becomes owed, and that a write takes
  something that was owed.  By induction `writes_paid` bounds the writes of a history.
* `writes_bounded` is the result from the start, for all writes of an output and between any two of
  them.
-/

namespace FanBoard

/-! ## What an output shows -/

namespace Output

/-- The input that an output shows on a transparent board. -/
def source : Output → Input
  | .fan _ => .header 0
  | .header i => .fan (i.castLE (by decide))

/-- What an output shows of a value of its source. -/
def shown : Output → Float32 → Float32
  | .fan _, duty => Single.clamp duty 0 100
  | .header _, hz => hz

theorem target_transparent (s : Signals) (o : Output) :
    Curve.transparent.target s o = o.shown (s.input o.source) := by
  cases o with
  | fan i => rfl
  | header i =>
    have hi : i.val < s.fanTach.toList.length := by
      rw [Vector.length_toList]
      exact i.isLt.trans (by decide)
    show s.fanTach.toList.getD i 0 = s.fanTach.get _
    rw [List.getD_eq_getElem _ _ hi, Vector.getElem_toList]
    rfl

/-- Whether a happening is a successful write of an output. -/
def wrote : Output → Happening → Bool
  | .fan i, .call (.fan channel _ (.ok ())) => decide (channel = i.val)
  | .header i, .call (.header channel _ (.ok ())) => decide (channel = i.val)
  | _, _ => false

theorem wrote_ok (o o' : Output) (value : Float32) :
    o.wrote (.call (o'.call value (.ok ()))) = decide (o' = o) := by
  cases o <;> cases o' <;> simp [wrote, call, Fin.ext_iff]

theorem wrote_error (o o' : Output) (value : Float32) (f : ActuatorFault) :
    o.wrote (.call (o'.call value (.error f))) = false := by
  cases o <;> cases o' <;> rfl

/-- The successful writes of an output in a history. -/
def writes (o : Output) (hs : List Happening) : Nat :=
  hs.countP o.wrote

end Output

/-- The changes of an input in a history from the start: what the deadband lets in. -/
def Thresholds.changes (t : Thresholds) (x : Input) (hs : List Happening) : Nat :=
  Deadband.passes (t.input x) 0 (readings x hs)

/-! ## What is owed -/

/-- One while an output does not show its source. -/
def Signals.owed (s : Signals) (o : Output) : Nat :=
  if s.output o = o.shown (s.input o.source) then 0 else 1

namespace Signals

variable {t : Thresholds} {s : Signals} {o : Output}

theorem owed_le (s : Signals) (o : Output) : s.owed o ≤ 1 := by
  unfold owed
  split <;> omega

theorem owed_congr {s' : Signals} (houtput : s'.output o = s.output o)
    (hinput : s'.input o.source = s.input o.source) : s'.owed o = s.owed o := by
  rw [owed, owed, houtput, hinput]

/-- Only an output that does not show its source is asked for a value. -/
theorem Wants.owed {value : Float32} (h : Wants Curve.transparent t s o value)
    (hpos : 0 < t.output o) : s.owed o = 1 := by
  refine if_neg fun hshown => ?_
  have hsame : s.output o = value := by rw [h.target, o.target_transparent, hshown]
  have hchanged := h.changed
  rw [hsame, Deadband.changed_self value hpos] at hchanged
  cases hchanged

/-- Once its value is taken over the output shows its source. -/
theorem Wants.owed_setOutput {value : Float32} (h : Wants Curve.transparent t s o value) :
    (s.setOutput o value).owed o = 0 := by
  refine if_pos ?_
  rw [output_setOutput_self, input_setOutput, ← o.target_transparent, h.target]

/-- A sample takes nothing from an output, and if the source changes, that is a change that counts. -/
theorem sample_paid (t : Thresholds) (s : Signals) (o : Output) (sample : Sample) :
    (s.take t sample).owed o ≤
      Deadband.passes (t.input o.source) (s.input o.source)
        (Happening.reading o.source (.sample sample)).toList + s.owed o := by
  match sample with
  | ⟨_, .error _⟩ => exact Nat.le_add_left _ _
  | ⟨x, .ok raw⟩ =>
    cases hchanged : Deadband.changed (s.input x) (x.reading raw) (t.input x) with
    | false =>
      simp only [take, hchanged, Bool.false_eq_true, if_false]
      exact Nat.le_add_left _ _
    | true =>
      simp only [take, hchanged, if_true]
      by_cases hx : x = o.source
      · subst hx
        simp only [Happening.reading, if_true, Option.toList_some, Deadband.passes, hchanged]
        exact (owed_le _ o).trans (Nat.le_add_right 1 _)
      · rw [owed_congr (s.output_setInput _ _ o) (s.input_setInput_of_ne _ (Ne.symm hx))]
        exact Nat.le_add_left _ _

/-- One happening: a write takes what was owed, and only a change of the source makes something
owed. -/
theorem step_paid {h : Happening} (hpos : 0 < t.output o)
    (hask : ∀ call, h = .call call →
      ∃ o' value result, call = o'.call value result ∧ Wants Curve.transparent t s o' value) :
    (if o.wrote h then 1 else 0) + (s.after t h).owed o ≤
      Deadband.passes (t.input o.source) (s.input o.source) (h.reading o.source).toList +
        s.owed o := by
  match h, hask with
  | .sample sample, _ =>
    have hwrote : o.wrote (.sample sample) = false := by cases o <;> rfl
    rw [hwrote, if_neg Bool.false_ne_true, Nat.zero_add]
    exact sample_paid t s o sample
  | .call call, hask =>
    obtain ⟨o', value, result, rfl, hwants⟩ := hask call rfl
    have hreading : (Happening.reading o.source (.call (o'.call value result))) = none := rfl
    rw [hreading, Option.toList_none, Deadband.passes, Nat.zero_add]
    cases result with
    | error f => rw [o.wrote_error, if_neg Bool.false_ne_true, after, heed_error, Nat.zero_add]
    | ok =>
      rw [o.wrote_ok, after, heed_ok]
      by_cases ho : o' = o
      · subst ho
        rw [decide_eq_true rfl, if_pos rfl, hwants.owed_setOutput, hwants.owed hpos]
      · rw [decide_eq_false ho, if_neg Bool.false_ne_true, Nat.zero_add]
        exact (owed_congr (s.output_setOutput_of_ne value (Ne.symm ho)) (s.input_setOutput ..)).le

/-- A history: the changes of the source pay for the writes. -/
theorem writes_paid {hs : List Happening} (hpos : 0 < t.output o)
    (hasks : Asks (Wants Curve.transparent t) t s hs) :
    o.writes hs + (hs.foldl (after t) s).owed o ≤
      Deadband.passes (t.input o.source) (s.input o.source) (readings o.source hs) + s.owed o := by
  induction hs generalizing s with
  | nil => simp [Output.writes, Deadband.passes]
  | cons h hs ih =>
    have hfirst := step_paid hpos hasks.1
    have hrest := ih hasks.2
    rw [input_after] at hrest
    rw [Output.writes, List.countP_cons, List.foldl_cons, readings_cons, Deadband.passes_append]
    simp only [Output.writes] at hrest
    omega

theorem owed_zero (o : Output) : zero.owed o = 0 := by
  refine if_pos ?_
  rw [input_zero]
  cases o with
  | fan i =>
    have hclamp : Single.clamp 0 0 100 = 0 := by decide
    exact (Vector.getElem_replicate i.isLt).trans hclamp.symm
  | header i => exact Vector.getElem_replicate i.isLt

/-! ## Between two writes -/

theorem reading_of_wrote {h : Happening} (hwrote : o.wrote h) (x : Input) : h.reading x = none := by
  cases h with
  | call call => rfl
  | sample sample => cases o <;> cases hwrote

/-- After a write nothing is owed. -/
theorem owed_after_write {h : Happening} (hpos : 0 < t.output o)
    (hasks : Asks (Wants Curve.transparent t) t s [h]) (hwrote : o.wrote h) :
    (s.after t h).owed o = 0 := by
  have hpaid := step_paid hpos hasks.1
  rw [if_pos hwrote, reading_of_wrote hwrote, Option.toList_none, Deadband.passes] at hpaid
  have howed := owed_le s o
  omega

/-- Where nothing is owed, the source changes before the output is written. -/
theorem change_before_write {between : List Happening} {h : Happening} (hpos : 0 < t.output o)
    (hasks : Asks (Wants Curve.transparent t) t s (between ++ [h])) (hwrote : o.wrote h)
    (howed : s.owed o = 0) :
    0 < Deadband.passes (t.input o.source) (s.input o.source) (readings o.source between) := by
  have hpaid := writes_paid hpos hasks
  have hwrites : o.writes (between ++ [h]) = o.writes between + 1 := by
    simp [Output.writes, List.countP_append, hwrote]
  have hreadings : readings o.source (between ++ [h]) = readings o.source between := by
    simp [readings_append, readings_cons, reading_of_wrote hwrote]
  rw [hwrites, hreadings, howed] at hpaid
  omega

end Signals

namespace Controller

variable {β : Type}

/-- From the start of a transparent board and after any tasks an output has been written at most as
often as its source has changed, and between two writes of an output its source has changed.  The
board may refuse any calls.  The thresholds of the outputs are positive. -/
theorem writes_bounded (board : β) (settings : Settings) (shared : Shared)
    (runs : List (TaskRun β)) (hcurve : ∀ r ∈ runs, r.wiring.curve = Curve.transparent)
    (hpos : settings.thresholds.OutputsPositive) (o : Output) :
    let history := (start board settings shared).history runs
    let changes := settings.thresholds.changes o.source
    o.writes history ≤ changes history ∧
      ∀ before first between second after,
        history = before ++ first :: (between ++ second :: after) →
        o.wrote first → o.wrote second →
        changes (before ++ [first]) < changes (before ++ first :: between) := by
  intro history changes
  have hfollows : (start board settings shared).Follows
      (Signals.Wants Curve.transparent settings.thresholds) history _ :=
    runTasks_follows _ runs fun r hr s o value hwants => by rwa [← hcurve r hr]
  have hasks : Asks (Signals.Wants Curve.transparent settings.thresholds) settings.thresholds
      Signals.zero history := hfollows.asks
  refine ⟨?_, fun before first between second after hsplit hfirst hsecond => ?_⟩
  · have hpaid := Signals.writes_paid (hpos.output o) hasks
    rw [Signals.owed_zero, Signals.input_zero] at hpaid
    exact (Nat.le_add_right _ _).trans hpaid
  · have hparts : history = (before ++ [first]) ++ ((between ++ [second]) ++ after) := by
      rw [hsplit]
      simp
    rw [hparts] at hasks
    obtain ⟨hwritten, hlater⟩ := asks_append.mp hasks
    obtain ⟨_, haskfirst⟩ := asks_append.mp hwritten
    obtain ⟨hasksecond, _⟩ := asks_append.mp hlater
    have howed := Signals.owed_after_write (hpos.output o) haskfirst hfirst
    have hinput := Signals.input_foldl_after settings.thresholds Signals.zero (before ++ [first])
      o.source
    rw [Signals.input_zero] at hinput
    rw [← List.foldl_concat (Signals.after _)] at howed
    have hchange := Signals.change_before_write (hpos.output o) hasksecond hsecond howed
    rw [hinput] at hchange
    have hcount : changes (before ++ first :: between) = changes (before ++ [first]) +
        Deadband.passes (settings.thresholds.input o.source)
          (Deadband.follow (settings.thresholds.input o.source) 0
            (readings o.source (before ++ [first]))) (readings o.source between) := by
      simp only [changes, Thresholds.changes]
      rw [← Deadband.passes_append, ← readings_append, List.append_assoc, List.singleton_append]
    omega

/-- A run of the output update on the bench. -/
def updateRun : TaskRun ProbeBoard :=
  { dutyRun (Vector.replicate _ (.ok 0)) with board := id, task := .outputUpdate }

/-- The host asks for two speeds.  Each fan is written twice, and a third update writes nothing. -/
theorem writes_bounded_twoSpeeds :
    let runs := [dutyRun #v[.ok 35.4, .ok 20], updateRun, dutyRun #v[.ok 50, .ok 20], updateRun,
      updateRun]
    let history := (start ({} : ProbeBoard) {} { clock := Clock.stepping 0 1 }).history runs
    let changes := ({} : Settings).thresholds.changes (.header 0)
    (∀ r ∈ runs, r.wiring.curve = Curve.transparent) ∧
      ({} : Settings).thresholds.OutputsPositive ∧ (Output.fan 1).writes history = 2 ∧
      2 ≤ changes history := by
  intro runs history changes
  have hcurve : ∀ r ∈ runs, r.wiring.curve = Curve.transparent := by
    simp [runs, dutyRun, updateRun, transparentBench]
  have hpos : ({} : Settings).thresholds.OutputsPositive := ⟨by decide, by decide⟩
  have hwrites : (Output.fan 1).writes history = 2 := by decide +kernel
  obtain ⟨hbound, _⟩ := writes_bounded ({} : ProbeBoard) {} { clock := Clock.stepping 0 1 } runs
    hcurve hpos (.fan 1)
  exact ⟨hcurve, hpos, hwrites, hwrites ▸ hbound⟩

end Controller

end FanBoard
