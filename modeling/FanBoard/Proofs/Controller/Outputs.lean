import FanBoard.Proofs.Board.Recorded
import FanBoard.Proofs.Controller.Frame

/-!
# The outputs of the controller

Fans and headers are driven alike.  An `Output` is one of them, with its value among the signals, the
target that the curve gives it and its threshold.

* `updateOutputs_eq`: an output pass updates the outputs one after the other.
* `update_eq`: an update writes the target if that is a change.
* `writeOutput_cases`: a write takes the value over if it succeeds and changes no signal if it fails.
-/

namespace FanBoard

/-! ## Reading a vector after a change -/

theorem get_set_self {α : Type} {n : Nat} (v : Vector α n) (i : Fin n) (x : α) :
    (v.set i.val x i.isLt).get i = x :=
  Vector.getElem_set_self i.isLt

theorem get_set_of_ne {α : Type} {n : Nat} (v : Vector α n) {i j : Fin n} (x : α) (h : j ≠ i) :
    (v.set i.val x i.isLt).get j = v.get j :=
  Vector.getElem_set_ne i.isLt j.isLt fun heq => h (Fin.ext heq.symm)

/-! ## One notion for fans and headers -/

/-- An output of the board. -/
inductive Output where
  | fan (i : Fin fanCount)
  | header (i : Fin headerCount)
deriving DecidableEq

namespace Output

/-- The outputs in the order of a pass. -/
def all : List Output :=
  (List.finRange fanCount).map .fan ++ (List.finRange headerCount).map .header

theorem mem_all (o : Output) : o ∈ all := by
  cases o <;> simp [all, List.mem_finRange]

/-- The call that asks for a value at an output. -/
def call : Output → Float32 → Except ActuatorFault Unit → OutputCall
  | .fan i, value, result => .fan i value result
  | .header i, value, result => .header i value result

end Output

namespace Signals

/-- The value last taken over at an output. -/
def output (s : Signals) : Output → Float32
  | .fan i => s.fanDuty.get i
  | .header i => s.headerTach.get i

/-- The signals with a value taken over at an output. -/
def setOutput (s : Signals) (o : Output) (value : Float32) : Signals :=
  match o with
  | .fan i => { s with fanDuty := s.fanDuty.set i.val value i.isLt }
  | .header i => { s with headerTach := s.headerTach.set i.val value i.isLt }

/-- The same inputs, whatever the outputs are. -/
structure SameInputs (s s' : Signals) : Prop where
  headerDuty : s'.headerDuty = s.headerDuty
  fanTach : s'.fanTach = s.fanTach
  temperature : s'.temperature = s.temperature

theorem output_setOutput_self (s : Signals) (o : Output) (value : Float32) :
    (s.setOutput o value).output o = value := by
  cases o with
  | fan i => exact get_set_self s.fanDuty i value
  | header i => exact get_set_self s.headerTach i value

theorem output_setOutput_of_ne (s : Signals) {o o' : Output} (value : Float32) (h : o' ≠ o) :
    (s.setOutput o value).output o' = s.output o' := by
  cases o with
  | fan i =>
    cases o' with
    | fan j => exact get_set_of_ne s.fanDuty value fun heq => h (congrArg Output.fan heq)
    | header j => rfl
  | header i =>
    cases o' with
    | fan j => rfl
    | header j => exact get_set_of_ne s.headerTach value fun heq => h (congrArg Output.header heq)

theorem sameInputs_setOutput (s : Signals) (o : Output) (value : Float32) :
    s.SameInputs (s.setOutput o value) := by
  cases o <;> exact ⟨rfl, rfl, rfl⟩

@[simp] theorem dirty_setOutput (s : Signals) (o : Output) (value : Float32) :
    (s.setOutput o value).dirty = s.dirty := by
  cases o <;> rfl

end Signals

namespace Curve

/-- The target of an output. -/
def target (k : Curve) (s : Signals) : Output → Float32
  | .fan i => k.fanDuty s i
  | .header i => k.headerTach s i

/-- The targets depend on the inputs only. -/
def ReadsInputs (k : Curve) : Prop :=
  ∀ s s', s.SameInputs s' → k.fanDuty s' = k.fanDuty s ∧ k.headerTach s' = k.headerTach s

theorem ReadsInputs.target_eq {k : Curve} (h : k.ReadsInputs) {s s' : Signals}
    (hs : s.SameInputs s') (o : Output) : k.target s' o = k.target s o := by
  obtain ⟨hfan, hheader⟩ := h s s' hs
  cases o with
  | fan i => exact congrFun hfan i
  | header i => exact congrFun hheader i

theorem transparent_readsInputs : transparent.ReadsInputs := by
  intro s s' hs
  constructor
  · funext channel
    simp only [transparent, hs.headerDuty]
  · funext channel
    simp only [transparent, hs.fanTach]

end Curve

/-- The threshold of an output. -/
def Thresholds.output (t : Thresholds) : Output → Float32
  | .fan _ => t.outputDuty
  | .header _ => t.outputTach

namespace Controller

variable {β : Type}

/-- Writes a value to an output. -/
def writeOutput (b : Board β) (c : Controller β) (o : Output) (value : Float32) : Controller β :=
  match o with
  | .fan i => c.writeFan b i value
  | .header i => c.writeHeader b i value

/-- Updates an output. -/
def update (w : Wiring β) (c : Controller β) : Output → Controller β
  | .fan i => c.updateFan w i
  | .header i => c.updateHeader w i

/-- Whether the target of an output is a change. -/
def wants (k : Curve) (c : Controller β) (o : Output) : Bool :=
  Deadband.changed (c.signals.output o) (k.target c.signals o) (c.settings.thresholds.output o)

/-- The controller at the beginning of an output pass. -/
def beginPass (c : Controller β) : Controller β :=
  let c := c.note .debug "Updating output signals."
  { c with signals := c.signals.takeDirty.2 }

@[simp] theorem beginPass_settings (c : Controller β) : c.beginPass.settings = c.settings := rfl

@[simp] theorem beginPass_dirty (c : Controller β) : c.beginPass.signals.dirty = false := rfl

theorem updateOutputs_eq (w : Wiring β) (c : Controller β) :
    c.updateOutputs w = Output.all.foldl (update w) c.beginPass := by
  simp only [Output.all, List.foldl_append, List.foldl_map]
  rfl

/-- An output is written if its target is a change. -/
theorem update_eq (w : Wiring β) (c : Controller β) (o : Output) :
    c.update w o =
      if c.wants w.curve o then c.writeOutput w.board o (w.curve.target c.signals o) else c := by
  cases o <;> rfl

@[simp] theorem writeOutput_settings (b : Board β) (c : Controller β) (o : Output)
    (value : Float32) : (c.writeOutput b o value).settings = c.settings := by
  cases o with
  | fan i =>
    simp only [writeOutput, writeFan]
    split <;> simp
  | header i =>
    simp only [writeOutput, writeHeader]
    split <;> simp

/-- A write takes the value over if it succeeds, and leaves the signals alone if it fails.  Either
way the board was asked once. -/
theorem writeOutput_cases (b : Board β) (c : Controller (Recorded β)) (o : Output)
    (value : Float32) :
    let c' := c.writeOutput b.recorded o value
    c'.signals = c.signals.setOutput o value ∧
        c'.board.calls = c.board.calls ++ [o.call value (.ok ())] ∨
      ∃ f, c'.signals = c.signals ∧
        c'.board.calls = c.board.calls ++ [o.call value (.error f)] := by
  cases o with
  | fan i =>
    simp only [writeOutput, writeFan, Board.recorded, Recorded.keeping_value]
    split
    · rename_i heq
      left
      simp [heq, Signals.setOutput, Output.call]
    · rename_i f heq
      right
      exact ⟨f, by simp [heq, Output.call]⟩
  | header i =>
    simp only [writeOutput, writeHeader, Board.recorded, Recorded.keeping_value]
    split
    · rename_i heq
      left
      simp [heq, Signals.setOutput, Output.call]
    · rename_i f heq
      right
      exact ⟨f, by simp [heq, Output.call]⟩

end Controller

end FanBoard
