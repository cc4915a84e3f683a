import FanBoard.Controller

/-!
# A board that keeps its output calls

`Board.recorded` is a board with the same behaviour that also keeps, in order, every call that asked
for a value at an output, and how the call ended.  What a run asks of the outputs is then read off
the board.
-/

namespace FanBoard

/-- A call that asked for a value at an output, and how it ended. -/
inductive OutputCall where
  | fan (channel : Nat) (duty : Float32) (result : Except ActuatorFault Unit)
  | header (channel : Nat) (hz : Float32) (result : Except ActuatorFault Unit)

/-- The hardware and the output calls on it. -/
structure Recorded (β : Type) where
  board : β
  calls : List OutputCall := []

namespace Recorded

variable {β α : Type}

/-- An operation on the hardware that is no output call. -/
def through (f : β → Outcome β α) (r : Recorded β) : Outcome (Recorded β) α :=
  let o := f r.board
  { value := o.value, state := { r with board := o.state }, log := o.log }

/-- An output call on the hardware, kept as `call` says. -/
def keeping (call : α → OutputCall) (f : β → Outcome β α) (r : Recorded β) :
    Outcome (Recorded β) α :=
  let o := f r.board
  { value := o.value, state := ⟨o.state, r.calls ++ [call o.value]⟩, log := o.log }

@[simp] theorem through_calls (f : β → Outcome β α) (r : Recorded β) :
    (r.through f).state.calls = r.calls := rfl

@[simp] theorem keeping_value (call : α → OutputCall) (f : β → Outcome β α) (r : Recorded β) :
    (r.keeping call f).value = (f r.board).value := rfl

@[simp] theorem keeping_calls (call : α → OutputCall) (f : β → Outcome β α) (r : Recorded β) :
    (r.keeping call f).state.calls = r.calls ++ [call (f r.board).value] := rfl

end Recorded

/-- The board with its output calls kept. -/
def Board.recorded {β : Type} (b : Board β) : Board (Recorded β) where
  readTemperature i := Recorded.through (b.readTemperature i)
  sampleDuties := Recorded.through b.sampleDuties
  setFanDuty i duty := Recorded.keeping (.fan i duty) (b.setFanDuty i duty)
  setHeaderTach i hz := Recorded.keeping (.header i hz) (b.setHeaderTach i hz)
  setLed on := Recorded.through (b.setLed on)
  refreshDisplay signals settings := Recorded.through (b.refreshDisplay signals settings)
  pollNetwork := Recorded.through b.pollNetwork
  readByte := Recorded.through b.readByte
  write bytes := Recorded.through (b.write bytes)
  feedWatchdog := Recorded.through b.feedWatchdog

/-- The same connections on the board with its output calls kept. -/
def Wiring.recorded {β : Type} (w : Wiring β) : Wiring (Recorded β) :=
  { w with board := w.board.recorded }

end FanBoard
