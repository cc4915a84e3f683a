import FanBoard.Board.Basic
import FanBoard.Curve
import FanBoard.Deadband
import FanBoard.Terminal.Commands
import FanBoard.Terminal.Pump
import FanBoard.Timetable.Basic

/-!
# The controller

The controller holds the signals and the settings and does the work of every task.  Each task is a
function from controllers to controllers.  The hardware, the curve and the doings of the other core
come in through a `Wiring`.

No task fails.  A sensor that gives no value leaves its signal as it was, and an output that does
not take a value leaves its signal as it was too, so that the next update tries again.
-/

namespace FanBoard

/-- What the controller is connected to. -/
structure Wiring (β : Type) where
  board : Board β
  curve : Curve
  /-- What the other core does to the words of the lockout before the step of this number while the
  controller waits for it. -/
  peer : Nat → Lockout.Words → Lockout.Words := fun _ w => w

/-- The controller on its hardware. -/
structure Controller (β : Type) where
  board : β
  settings : Settings
  signals : Signals := {}
  commands : Commands := {}
  editor : LineEditor
  ledOn : Bool := false
  metrics : LoopMetrics := {}
  shared : Shared

namespace Controller

variable {β : Type}

/-- A controller with all signals at zero. -/
def start (board : β) (settings : Settings) (shared : Shared) : Controller β where
  board
  settings
  editor := { echo := settings.localEcho }
  shared

/-! ## Small steps -/

/-- Logs a message. -/
def note (c : Controller β) (level : Log.Level) (message : String) : Controller β :=
  { c with shared := c.shared.note (Log.Origin.controller.line level message) }

/-- Takes over what an operation on the hardware left and logged. -/
def after {α : Type} (c : Controller β) (o : Outcome β α) : Controller β :=
  { c with board := o.state, shared := c.shared.notes o.log }

/-- Notes that an input changed. -/
def markDirty (c : Controller β) : Controller β :=
  { c with signals := c.signals.markDirty }

/-- Counts a failure by its cause. -/
def countFailure (c : Controller β) : Fault → Controller β
  | .sensor _ =>
    { c with metrics := { c.metrics with sensorErrors := c.metrics.sensorErrors + 1 } }
  | .actuator _ =>
    { c with metrics := { c.metrics with actuatorErrors := c.metrics.actuatorErrors + 1 } }
  | .lockout _ | .settings _ => c

/-- Logs and counts a failure of `source`. -/
def recordFailure (c : Controller β) (source : String) (f : Fault) : Controller β :=
  (c.note .warn (source ++ ": " ++ f.message)).countFailure f

def countWrite (c : Controller β) : Controller β :=
  { c with metrics := { c.metrics with outputWrites := c.metrics.outputWrites + 1 } }

/-! ## Names -/

def fanName (i : Fin fanCount) : String :=
  "fan" ++ toString (i.val + 1)

def headerName (i : Fin headerCount) : String :=
  "mbfan" ++ toString (i.val + 1)

def sensorName (i : Fin sensorCount) : String :=
  "sensor" ++ toString (i.val + 1)

/-- A change from one value to another, with decimal places and a unit. -/
def changeText (places : Nat) (unit : String) (prev next : Float32) : String :=
  FixedPlaces.text places prev ++ unit ++ " --> " ++ FixedPlaces.text places next ++ unit

/-! ## Inputs -/

/-- Takes a sample of the duty of a header.  Only whole percents count. -/
def takeDuty (c : Controller β) (i : Fin headerCount) :
    Except SensorFault Float32 → Controller β
  | .error f => c.recordFailure (headerName i) (.sensor f)
  | .ok raw =>
    let duty := Single.roundHalfAway raw
    match Deadband.apply (c.signals.headerDuty.get i) duty c.settings.thresholds.inputDuty with
    | (_, none) => c
    | (value, some prev) =>
      let c := c.note .info (headerName i ++ ": duty cycle change " ++ changeText 1 "" prev duty)
      let signals := { c.signals with headerDuty := c.signals.headerDuty.set i.val value i.isLt }
      { c with signals }.markDirty

def takeTemperature (c : Controller β) (i : Fin sensorCount) :
    Except SensorFault Float32 → Controller β
  | .error f => c.recordFailure (sensorName i) (.sensor f)
  | .ok t =>
    match Deadband.apply (c.signals.temperature.get i) t c.settings.thresholds.temperature with
    | (_, none) => c
    | (value, some prev) =>
      let c := c.note .info (sensorName i ++ ": Temperature change " ++ changeText 1 "C" prev t)
      let signals := { c.signals with temperature := c.signals.temperature.set i.val value i.isLt }
      { c with signals }.markDirty

/-- Takes a tach frequency of a fan. -/
def takeTach (c : Controller β) (i : Fin fanCount) (hz : Float32) : Controller β :=
  match Deadband.apply (c.signals.fanTach.get i) hz c.settings.thresholds.inputTach with
  | (_, none) => c
  | (value, some prev) =>
    let c := c.note .info (fanName i ++ ": Input Tacho change " ++ changeText 2 "Hz" prev hz)
    let signals := { c.signals with fanTach := c.signals.fanTach.set i.val value i.isLt }
    { c with signals }.markDirty

def sampleDuties (b : Board β) (c : Controller β) : Controller β :=
  let c := c.note .debug "Read PWM inputs"
  let samples := b.sampleDuties c.board
  let c := c.after samples
  (List.finRange headerCount).foldl (fun c i => c.takeDuty i (samples.value.get i)) c

def sampleTemperature (b : Board β) (c : Controller β) (i : Fin sensorCount) : Controller β :=
  let sample := b.readTemperature i c.board
  (c.after sample).takeTemperature i sample.value

def sampleTemperatures (b : Board β) (c : Controller β) : Controller β :=
  (List.finRange sensorCount).foldl (sampleTemperature b) (c.note .debug "Read temperature sensors")

/-- Reads the published tach frequencies. -/
def sampleTachs (c : Controller β) : Controller β :=
  let c := c.note .debug "Updating tacho input signals."
  let slots := c.shared.slots
  (List.finRange fanCount).foldl (fun c i => c.takeTach i (slots.hz.get i)) c

/-! ## Outputs -/

/-- Drives a fan at a duty. -/
def writeFan (b : Board β) (c : Controller β) (i : Fin fanCount) (target : Float32) :
    Controller β :=
  let prev := c.signals.fanDuty.get i
  let write := b.setFanDuty i target c.board
  let c := c.after write
  match write.value with
  | .ok () =>
    let c := c.note .info (fanName i ++ ": Set output PWM " ++ changeText 1 "%" prev target)
    let signals := { c.signals with fanDuty := c.signals.fanDuty.set i.val target i.isLt }
    { c with signals }.countWrite
  | .error f => c.recordFailure (fanName i) (.actuator f)

/-- Drives a fan at the duty of the curve, if that is a change. -/
def updateFan (w : Wiring β) (c : Controller β) (i : Fin fanCount) : Controller β :=
  let target := w.curve.fanDuty c.signals i
  if Deadband.changed (c.signals.fanDuty.get i) target c.settings.thresholds.outputDuty then
    c.writeFan w.board i target
  else c

/-- Gives a header a tach frequency. -/
def writeHeader (b : Board β) (c : Controller β) (i : Fin headerCount) (target : Float32) :
    Controller β :=
  let prev := c.signals.headerTach.get i
  let write := b.setHeaderTach i target c.board
  let c := c.after write
  match write.value with
  | .ok () =>
    let c := c.note .info (headerName i ++ ": Set output Tacho " ++ changeText 2 "Hz" prev target)
    let signals := { c.signals with headerTach := c.signals.headerTach.set i.val target i.isLt }
    { c with signals }.countWrite
  | .error f => c.recordFailure (headerName i) (.actuator f)

/-- Gives a header the tach frequency of the curve, if that is a change. -/
def updateHeader (w : Wiring β) (c : Controller β) (i : Fin headerCount) : Controller β :=
  let target := w.curve.headerTach c.signals i
  if Deadband.changed (c.signals.headerTach.get i) target c.settings.thresholds.outputTach then
    c.writeHeader w.board i target
  else c

/-- Computes all outputs. -/
def updateOutputs (w : Wiring β) (c : Controller β) : Controller β :=
  let c := c.note .debug "Updating output signals."
  let c := { c with signals := c.signals.takeDirty.2 }
  let c := (List.finRange fanCount).foldl (updateFan w) c
  (List.finRange headerCount).foldl (updateHeader w) c

/-! ## Light, display and terminal -/

/-- Lets the status light go on to its next state. -/
def updateLed (b : Board β) (c : Controller β) : Controller β :=
  let on := c.settings.ledMode.next c.ledOn
  { c with ledOn := on }.after (b.setLed on c.board)

def updateDisplay (b : Board β) (c : Controller β) : Controller β :=
  let c := c.note .debug "Update display"
  c.after (b.refreshDisplay c.signals c.settings c.board)

/-- Sends bytes to the terminal. -/
def send (b : Board β) (c : Controller β) (bytes : List UInt8) : Controller β :=
  c.after (b.write bytes c.board)

/-- Sends a line and its end to the terminal. -/
def sendLine (b : Board β) (c : Controller β) (line : String) : Controller β :=
  (c.send b (Utf8.encode line)).send b LineEditor.lineEnd

/-- What a command sees of the controller. -/
def context (c : Controller β) : Context where
  signals := c.signals
  settings := c.settings
  metrics := c.metrics
  shared := c.shared

/-- Carries out the command of a line and sends the answer. -/
def dispatch (w : Wiring β) (c : Controller β) (raw : List UInt8) : Controller β :=
  let (commands, answer, ctx) := c.commands.process w.peer c.context (Utf8.decodeLossy raw)
  answer.foldl (sendLine w.board) { c with commands, signals := ctx.signals, shared := ctx.shared }

/-- Carries out an event of the line editor. -/
def perform (w : Wiring β) (c : Controller β) : Event → Controller β
  | .write bytes => c.send w.board bytes
  | .note line => { c with shared := c.shared.note line }
  | .dispatch raw => c.dispatch w raw

/-- The terminal as the line editor sees it. -/
def wire (w : Wiring β) : Wire (Controller β) where
  readByte c :=
    let read := w.board.readByte c.board
    (read.value, c.after read)
  perform := perform w

/-- Takes what the terminal sent. -/
def pumpTerminal (w : Wiring β) (c : Controller β) : Controller β :=
  let (_, editor, c) := (wire w).pump c.editor c
  { c with editor }

/-! ## Tasks -/

/-- Does the work of a task. -/
def perTask (w : Wiring β) (c : Controller β) : Task → Controller β
  | .networkPoll => c.after (w.board.pollNetwork c.board)
  | .statusLed => c.updateLed w.board
  | .display => c.updateDisplay w.board
  | .inputDuty => c.sampleDuties w.board
  | .temperature => c.sampleTemperatures w.board
  | .inputTach => c.sampleTachs
  | .outputUpdate => c.updateOutputs w
  | .console => c.pumpTerminal w
  | .watchdog => c.after (w.board.feedWatchdog c.board)

/-- Runs a task in a tick. -/
def runTask (w : Wiring β) (task : Task) (tick : Tick) (c : Controller β) : Controller β :=
  { c with metrics := c.metrics.observe tick }.perTask w task

/-- Whether a task has work: the output update has when an input changed. -/
def pending (task : Task) (c : Controller β) : Bool :=
  task == .outputUpdate && c.signals.dirty

/-- The controller as the runner of a timetable. -/
def runner (w : Wiring β) : Runner (Controller β) where
  run task tick c := c.runTask w task tick
  pending := pending
  note line c := { c with shared := c.shared.note line }

end Controller

end FanBoard
