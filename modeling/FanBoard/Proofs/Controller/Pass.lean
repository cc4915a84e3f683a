import FanBoard.Proofs.Controller.Outputs
import FanBoard.Proofs.Deadband

/-!
# One pass over the outputs

A pass updates every output once.  An output is settled when its target is no change, or when the
board refused the value that the pass asked for.

* `update_settledAt`: an update settles its output and keeps the settled ones.  A refused write leaves
  its call behind, and a write that succeeds leaves no change because a value against itself is none.
* `updateOutputs_settledAt`: a pass settles every output, whatever the controller was like.
-/

namespace FanBoard

variable {β : Type}

/-- The board refused a value that was asked for at an output. -/
def Recorded.Refused (r : Recorded β) (o : Output) : Prop :=
  ∃ value f, o.call value (.error f) ∈ r.calls

/-- What was refused stays refused when calls are added. -/
theorem Recorded.Refused.append {r r' : Recorded β} {o : Output} {call : OutputCall}
    (h : r.Refused o) (hcalls : r'.calls = r.calls ++ [call]) : r'.Refused o := by
  obtain ⟨value, f, hmem⟩ := h
  exact ⟨value, f, by rw [hcalls]; exact List.mem_append_left _ hmem⟩

/-- Both thresholds of the outputs are positive. -/
structure Thresholds.OutputsPositive (t : Thresholds) : Prop where
  duty : 0 < t.outputDuty
  tach : 0 < t.outputTach

theorem Thresholds.OutputsPositive.output {t : Thresholds} (h : t.OutputsPositive) (o : Output) :
    0 < t.output o := by
  cases o with
  | fan i => exact h.duty
  | header i => exact h.tach

namespace Controller

/-- An output whose target is no change, or whose value the board refused. -/
def SettledAt (k : Curve) (c : Controller (Recorded β)) (o : Output) : Prop :=
  c.wants k o = false ∨ c.board.Refused o

/-- Whether an output is written depends on the settings, the inputs and the output itself. -/
theorem wants_congr {k : Curve} (hk : k.ReadsInputs) {γ : Type} {c : Controller β}
    {c' : Controller γ} {o : Output} (hsettings : c'.settings = c.settings)
    (hinputs : c.signals.SameInputs c'.signals)
    (houtput : c'.signals.output o = c.signals.output o) : c'.wants k o = c.wants k o := by
  simp only [wants, hsettings, houtput, hk.target_eq hinputs]

section Update

variable (w : Wiring β) (c : Controller (Recorded β)) (o : Output)

@[simp] theorem update_settings : (c.update w.recorded o).settings = c.settings := by
  rw [update_eq]
  split
  · exact writeOutput_settings _ _ _ _
  · rfl

@[simp] theorem update_dirty : (c.update w.recorded o).signals.dirty = c.signals.dirty := by
  rw [update_eq]
  split
  · rcases writeOutput_cases w.board c o (w.curve.target c.signals o) with ⟨hs, _⟩ | ⟨f, hs, _⟩
    · rw [Wiring.recorded, hs, Signals.dirty_setOutput]
    · rw [Wiring.recorded, hs]
  · rfl

variable {w c o}

/-- An update settles its own output. -/
theorem update_settledAt_self (hk : w.curve.ReadsInputs)
    (hpos : c.settings.thresholds.OutputsPositive) :
    (c.update w.recorded o).SettledAt w.curve o := by
  rw [update_eq]
  split
  · rcases writeOutput_cases w.board c o (w.curve.target c.signals o) with
      ⟨hs, _⟩ | ⟨f, _, hcalls⟩
    · -- The value taken over is the target, and the target is where it was.
      left
      have htarget := hk.target_eq (c.signals.sameInputs_setOutput o (w.curve.target c.signals o)) o
      simp only [wants, Wiring.recorded, hs, writeOutput_settings, htarget,
        Signals.output_setOutput_self]
      exact Deadband.changed_self _ (hpos.output o)
    · right
      refine ⟨w.curve.target c.signals o, f, ?_⟩
      rw [Wiring.recorded, hcalls]
      exact List.mem_append_right _ (List.mem_singleton_self _)
  · rename_i hwants
    left
    rwa [Bool.not_eq_true] at hwants

/-- An update keeps the other outputs settled. -/
theorem update_settledAt_of_ne (hk : w.curve.ReadsInputs) {o' : Output} (hne : o' ≠ o)
    (h : c.SettledAt w.curve o') : (c.update w.recorded o).SettledAt w.curve o' := by
  rw [update_eq]
  split
  · rcases writeOutput_cases w.board c o (w.curve.target c.signals o) with
      ⟨hs, hcalls⟩ | ⟨f, hs, hcalls⟩
    · refine h.imp (fun hwants => ?_) fun hrefused => hrefused.append hcalls
      rw [← hwants]
      refine wants_congr hk (writeOutput_settings _ _ _ _) ?_ ?_
      · rw [Wiring.recorded, hs]
        exact c.signals.sameInputs_setOutput o _
      · rw [Wiring.recorded, hs]
        exact c.signals.output_setOutput_of_ne _ hne
    · refine h.imp (fun hwants => ?_) fun hrefused => hrefused.append hcalls
      rw [← hwants]
      refine wants_congr hk (writeOutput_settings _ _ _ _) ?_ ?_
      · rw [Wiring.recorded, hs]
        exact ⟨rfl, rfl, rfl⟩
      · rw [Wiring.recorded, hs]
  · exact h

/-- An update settles its output and keeps the settled ones. -/
theorem update_settledAt (hk : w.curve.ReadsInputs)
    (hpos : c.settings.thresholds.OutputsPositive) {o' : Output}
    (h : c.SettledAt w.curve o' ∨ o' = o) : (c.update w.recorded o).SettledAt w.curve o' := by
  by_cases heq : o' = o
  · rw [heq]
    exact update_settledAt_self hk hpos
  · exact update_settledAt_of_ne hk heq (h.resolve_right heq)

end Update

section Pass

variable {w : Wiring β}

theorem foldl_update_settings (w : Wiring β) (os : List Output) (c : Controller (Recorded β)) :
    (os.foldl (update w.recorded) c).settings = c.settings := by
  induction os generalizing c with
  | nil => rfl
  | cons o os ih => rw [List.foldl_cons, ih, update_settings]

theorem foldl_update_dirty (w : Wiring β) (os : List Output) (c : Controller (Recorded β)) :
    (os.foldl (update w.recorded) c).signals.dirty = c.signals.dirty := by
  induction os generalizing c with
  | nil => rfl
  | cons o os ih => rw [List.foldl_cons, ih, update_dirty]

/-- Updating a list of outputs settles them and keeps the settled ones. -/
theorem foldl_update_settledAt (hk : w.curve.ReadsInputs) (os : List Output)
    {c : Controller (Recorded β)} (hpos : c.settings.thresholds.OutputsPositive) {o : Output}
    (h : c.SettledAt w.curve o ∨ o ∈ os) :
    (os.foldl (update w.recorded) c).SettledAt w.curve o := by
  induction os generalizing c with
  | nil => exact h.resolve_right List.not_mem_nil
  | cons a os ih =>
    rw [List.foldl_cons]
    refine ih (by rwa [update_settings]) ?_
    rcases h with hsettled | hmem
    · left
      exact update_settledAt hk hpos (Or.inl hsettled)
    · rcases List.mem_cons.mp hmem with heq | hmem
      · left
        exact update_settledAt hk hpos (Or.inr heq)
      · right
        exact hmem

variable (w) (c : Controller (Recorded β))

theorem updateOutputs_settings : (c.updateOutputs w.recorded).settings = c.settings := by
  rw [updateOutputs_eq, foldl_update_settings, beginPass_settings]

/-- A pass removes the note that an input changed. -/
theorem updateOutputs_dirty : (c.updateOutputs w.recorded).signals.dirty = false := by
  rw [updateOutputs_eq, foldl_update_dirty, beginPass_dirty]

/-- A pass settles every output, whatever the controller was like. -/
theorem updateOutputs_settledAt (hk : w.curve.ReadsInputs)
    (hpos : c.settings.thresholds.OutputsPositive) (o : Output) :
    (c.updateOutputs w.recorded).SettledAt w.curve o := by
  rw [updateOutputs_eq]
  exact foldl_update_settledAt hk Output.all (by rwa [beginPass_settings]) (Or.inr o.mem_all)

end Pass

end Controller

end FanBoard
