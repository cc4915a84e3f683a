/-!
# Tasks and ticks

The tasks of the controller, and what a task is told about the tick in which it runs.
-/

namespace FanBoard

/-- A task of the controller. -/
inductive Task where
  | networkPoll
  | statusLed
  | display
  | inputDuty
  | temperature
  | inputTach
  | outputUpdate
  | console
  | watchdog
deriving Repr, DecidableEq

namespace Task

/-- The tasks in the order of the standard timetable. -/
def all : List Task :=
  [.networkPoll, .statusLed, .display, .inputDuty, .temperature, .inputTach, .outputUpdate,
    .console, .watchdog]

def name : Task → String
  | .networkPoll => "NetworkPoll"
  | .statusLed => "StatusLed"
  | .display => "Display"
  | .inputDuty => "InputDuty"
  | .temperature => "Temperature"
  | .inputTach => "InputFrequency"
  | .outputUpdate => "OutputUpdate"
  | .console => "Console"
  | .watchdog => "Watchdog"

end Task

/-- One pass over the timetable. -/
structure Tick where
  /-- When it began. -/
  now : Nat
  /-- Its number, counted from one. -/
  iteration : Nat
  /-- The longest time between two ticks so far. -/
  maxLoop : Nat
deriving Repr, DecidableEq

end FanBoard
