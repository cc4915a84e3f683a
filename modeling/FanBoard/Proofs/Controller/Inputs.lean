import FanBoard.Proofs.Controller.Outputs
import FanBoard.Proofs.Deadband

/-!
# The inputs of the controller

Headers, fans and sensors are sampled alike.  An `Input` is one of them, with its value among the
signals, its threshold, and what of a sample counts.

* `Signals.take` is what a sample does to the signals: it goes through the deadband of its input.  A
  sample that failed does nothing.
* `Controller.samples` are the samples that a task takes, and `perTask_took` says that a sampling
  task takes these and does nothing else to the signals.
-/

namespace FanBoard

/-! ## One notion for headers, fans and sensors -/

/-- An input of the board. -/
inductive Input where
  | header (i : Fin headerCount)
  | fan (i : Fin fanCount)
  | sensor (i : Fin sensorCount)
deriving DecidableEq

/-- What counts of a sample that did not fail: of a duty the whole percents. -/
def Input.reading : Input → Float32 → Float32
  | .header _, raw => Single.roundHalfAway raw
  | .fan _, raw | .sensor _, raw => raw

/-- The threshold of an input. -/
def Thresholds.input (t : Thresholds) : Input → Float32
  | .header _ => t.inputDuty
  | .fan _ => t.inputTach
  | .sensor _ => t.temperature

/-- A sample of an input. -/
structure Sample where
  input : Input
  result : Except SensorFault Float32

namespace Signals

/-- The value last taken over at an input. -/
def input (s : Signals) : Input → Float32
  | .header i => s.headerDuty.get i
  | .fan i => s.fanTach.get i
  | .sensor i => s.temperature.get i

/-- The signals with a value taken over at an input. -/
def setInput (s : Signals) (x : Input) (value : Float32) : Signals :=
  match x with
  | .header i => { s with headerDuty := s.headerDuty.set i.val value i.isLt }
  | .fan i => { s with fanTach := s.fanTach.set i.val value i.isLt }
  | .sensor i => { s with temperature := s.temperature.set i.val value i.isLt }

/-- The signals without the note that an input changed. -/
def clean (s : Signals) : Signals :=
  s.takeDirty.2

/-- The signals after a sample was held against its input. -/
def take (t : Thresholds) (s : Signals) (sample : Sample) : Signals :=
  match sample.result with
  | .error _ => s
  | .ok raw =>
    let value := sample.input.reading raw
    if Deadband.changed (s.input sample.input) value (t.input sample.input) then
      s.setInput sample.input value
    else s

theorem input_setInput_self (s : Signals) (x : Input) (value : Float32) :
    (s.setInput x value).input x = value := by
  cases x with
  | header i => exact get_set_self s.headerDuty i value
  | fan i => exact get_set_self s.fanTach i value
  | sensor i => exact get_set_self s.temperature i value

theorem input_setInput_of_ne (s : Signals) {x x' : Input} (value : Float32) (h : x' ≠ x) :
    (s.setInput x value).input x' = s.input x' := by
  cases x with
  | header i =>
    cases x' with
    | header j => exact get_set_of_ne s.headerDuty value fun heq => h (congrArg Input.header heq)
    | fan j | sensor j => rfl
  | fan i =>
    cases x' with
    | fan j => exact get_set_of_ne s.fanTach value fun heq => h (congrArg Input.fan heq)
    | header j | sensor j => rfl
  | sensor i =>
    cases x' with
    | sensor j => exact get_set_of_ne s.temperature value fun heq => h (congrArg Input.sensor heq)
    | header j | fan j => rfl

@[simp] theorem output_setInput (s : Signals) (x : Input) (value : Float32) (o : Output) :
    (s.setInput x value).output o = s.output o := by
  cases x <;> cases o <;> rfl

@[simp] theorem input_setOutput (s : Signals) (o : Output) (value : Float32) (x : Input) :
    (s.setOutput o value).input x = s.input x := by
  cases x <;> cases o <;> rfl

@[simp] theorem clean_input (s : Signals) (x : Input) : s.clean.input x = s.input x := by
  cases x <;> rfl

@[simp] theorem clean_markDirty (s : Signals) : s.markDirty.clean = s.clean := rfl

theorem clean_setInput (s : Signals) (x : Input) (value : Float32) :
    (s.setInput x value).clean = s.clean.setInput x value := by
  cases x <;> rfl

theorem clean_of_not_dirty {s : Signals} (h : s.dirty = false) : s.clean = s := by
  cases s
  cases h
  rfl

end Signals

namespace Controller

variable {β : Type}

/-! ## Taking samples -/

/-- The second controller comes from the first by taking samples in order. -/
structure Took (samples : List Sample) (c c' : Controller β) : Prop where
  settings : c'.settings = c.settings
  signals : c'.signals.clean = samples.foldl (Signals.take c.settings.thresholds) c.signals.clean

theorem Took.trans {xs ys : List Sample} {c c' c'' : Controller β} (h : c.Took xs c')
    (h' : c'.Took ys c'') : c.Took (xs ++ ys) c'' where
  settings := h'.settings.trans h.settings
  signals := by rw [List.foldl_append, ← h.signals, ← h.settings, h'.signals]

/-- What leaves the settings and the signals alone may come before the samples. -/
theorem Took.since {xs : List Sample} {c c' c'' : Controller β} (h : c'.Took xs c'')
    (hsettings : c'.settings = c.settings) (hsignals : c'.signals = c.signals) : c.Took xs c'' where
  settings := h.settings.trans hsettings
  signals := by rw [h.signals, hsettings, hsignals]

/-- A sample that failed is counted, and it leaves the signals alone. -/
theorem took_recordFailure (c : Controller β) (x : Input) (source : String) (f : SensorFault) :
    c.Took [⟨x, .error f⟩] (c.recordFailure source (.sensor f)) :=
  ⟨rfl, rfl⟩

/-- A sample that is no change does nothing. -/
theorem took_unchanged (c : Controller β) {x : Input} {raw : Float32}
    (h : Deadband.changed (c.signals.input x) (x.reading raw) (c.settings.thresholds.input x) =
      false) : c.Took [⟨x, .ok raw⟩] c where
  settings := rfl
  signals := by simp [Signals.take, h]

/-- A sample that is a change is taken over, with a note. -/
theorem took_changed {c c' : Controller β} {x : Input} {raw : Float32}
    (h : Deadband.changed (c.signals.input x) (x.reading raw) (c.settings.thresholds.input x) =
      true) (hsettings : c'.settings = c.settings)
    (hsignals : c'.signals = (c.signals.setInput x (x.reading raw)).markDirty) :
    c.Took [⟨x, .ok raw⟩] c' where
  settings := hsettings
  signals := by simp [Signals.take, h, hsignals, Signals.clean_setInput]

theorem took_takeDuty (c : Controller β) (i : Fin headerCount)
    (result : Except SensorFault Float32) : c.Took [⟨.header i, result⟩] (c.takeDuty i result) := by
  cases result with
  | error f => exact c.took_recordFailure _ _ f
  | ok raw =>
    cases hchanged : Deadband.changed (c.signals.headerDuty.get i) (Single.roundHalfAway raw)
        c.settings.thresholds.inputDuty with
    | false =>
      simp only [takeDuty, Deadband.apply_of_not_changed hchanged]
      exact c.took_unchanged hchanged
    | true =>
      simp only [takeDuty, Deadband.apply_of_changed hchanged]
      exact took_changed hchanged rfl rfl

theorem took_takeTemperature (c : Controller β) (i : Fin sensorCount)
    (result : Except SensorFault Float32) :
    c.Took [⟨.sensor i, result⟩] (c.takeTemperature i result) := by
  cases result with
  | error f => exact c.took_recordFailure _ _ f
  | ok t =>
    cases hchanged : Deadband.changed (c.signals.temperature.get i) t
        c.settings.thresholds.temperature with
    | false =>
      simp only [takeTemperature, Deadband.apply_of_not_changed hchanged]
      exact c.took_unchanged hchanged
    | true =>
      simp only [takeTemperature, Deadband.apply_of_changed hchanged]
      exact took_changed hchanged rfl rfl

theorem took_takeTach (c : Controller β) (i : Fin fanCount) (hz : Float32) :
    c.Took [⟨.fan i, .ok hz⟩] (c.takeTach i hz) := by
  cases hchanged : Deadband.changed (c.signals.fanTach.get i) hz c.settings.thresholds.inputTach with
  | false =>
    simp only [takeTach, Deadband.apply_of_not_changed hchanged]
    exact c.took_unchanged hchanged
  | true =>
    simp only [takeTach, Deadband.apply_of_changed hchanged]
    exact took_changed hchanged rfl rfl

/-- A temperature comes from the hardware, but taking it leaves the hardware alone. -/
theorem takeTemperature_board (c : Controller β) (i : Fin sensorCount)
    (result : Except SensorFault Float32) : (c.takeTemperature i result).board = c.board := by
  cases result with
  | error f => exact c.recordFailure_board _ _
  | ok t =>
    simp only [takeTemperature]
    split <;> rfl

end Controller

/-! ## The sampling tasks -/

/-- The samples that the sensors give when they are read one after the other. -/
def Board.temperatures {β : Type} (b : Board β) : List (Fin sensorCount) → β → List Sample
  | [], _ => []
  | i :: rest, hardware =>
    let sample := b.readTemperature i hardware
    ⟨.sensor i, sample.value⟩ :: b.temperatures rest sample.state

namespace Controller

/-- The samples that a task takes, in order. -/
def samples (w : Wiring β) (c : Controller β) : Task → List Sample
  | .inputDuty =>
    (List.finRange headerCount).map fun i => ⟨.header i, (w.board.sampleDuties c.board).value.get i⟩
  | .temperature => w.board.temperatures (List.finRange sensorCount) c.board
  | .inputTach => (List.finRange fanCount).map fun i => ⟨.fan i, .ok (c.shared.slots.hz.get i)⟩
  | .networkPoll | .statusLed | .display | .outputUpdate | .console | .watchdog => []

/-- The tasks beside the sampling ones take no samples. -/
theorem samples_eq_nil (w : Wiring β) (c : Controller β) {task : Task}
    (htask : task ∉ [.inputDuty, .temperature, .inputTach]) : c.samples w task = [] := by
  cases task with
  | inputDuty | temperature | inputTach => simp at htask
  | networkPoll | statusLed | display | outputUpdate | console | watchdog => rfl

/-- Where every step takes one sample, all steps together take all samples. -/
theorem took_foldl {ι : Type} {step : Controller β → ι → Controller β} {sample : ι → Sample}
    (h : ∀ c i, Took [sample i] c (step c i)) (l : List ι) (c : Controller β) :
    c.Took (l.map sample) (l.foldl step c) := by
  induction l generalizing c with
  | nil => exact ⟨rfl, rfl⟩
  | cons i l ih => exact (h c i).trans (ih (step c i))

theorem took_foldl_sampleTemperature (b : Board β) (l : List (Fin sensorCount))
    (c : Controller β) :
    c.Took (b.temperatures l c.board) (l.foldl (sampleTemperature b) c) := by
  induction l generalizing c with
  | nil => exact ⟨rfl, rfl⟩
  | cons i l ih =>
    let sample := b.readTemperature i c.board
    have hfirst : c.Took [⟨.sensor i, sample.value⟩] (c.sampleTemperature b i) :=
      (took_takeTemperature (c.after sample) i sample.value).since rfl rfl
    have hboard : (c.sampleTemperature b i).board = sample.state := takeTemperature_board _ _ _
    have hrest := ih (c.sampleTemperature b i)
    rw [hboard] at hrest
    exact hfirst.trans hrest

/-- A sampling task takes its samples. -/
theorem perTask_took (w : Wiring β) (c : Controller β) {task : Task}
    (htask : task ∈ [.inputDuty, .temperature, .inputTach]) :
    c.Took (c.samples w task) (c.perTask w task) := by
  cases task with
  | inputDuty =>
    simp only [perTask, sampleDuties, samples]
    exact Took.since (took_foldl (fun c i => c.took_takeDuty i _) _ _) rfl rfl
  | temperature =>
    simp only [perTask, sampleTemperatures, samples]
    exact Took.since (took_foldl_sampleTemperature w.board _ (c.note _ _)) rfl rfl
  | inputTach =>
    simp only [perTask, sampleTachs, samples]
    exact Took.since (took_foldl (fun c i => c.took_takeTach i _) _ _) rfl rfl
  | networkPoll | statusLed | display | outputUpdate | console | watchdog => simp at htask

end Controller

end FanBoard
