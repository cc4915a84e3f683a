/-!
# The log

A `Line` has a level, a target that names its origin, and a message.  The `Journal` keeps the lines
at or below its limit, in order, and the limit can change while the board runs.

Operations that log outside the controller do not hold the journal.  They give their lines in an
`Outcome`, beside a value and the state they leave.
-/

namespace FanBoard

namespace Log

/-- How urgent a line is, the most urgent first. -/
inductive Level where
  | error
  | warn
  | info
  | debug
  | trace
deriving Repr, DecidableEq

/-- The place of a level in the order. -/
def Level.rank : Level → Nat
  | .error => 1
  | .warn => 2
  | .info => 3
  | .debug => 4
  | .trace => 5

def Level.name : Level → String
  | .error => "ERROR"
  | .warn => "WARN"
  | .info => "INFO"
  | .debug => "DEBUG"
  | .trace => "TRACE"

/-- The least urgent level that is kept, or none where nothing is. -/
abbrev Limit : Type := Option Level

def Limit.name : Limit → String
  | none => "OFF"
  | some l => l.name

/-- Whether a limit lets a level through. -/
def Limit.admits (limit : Limit) (l : Level) : Bool :=
  match limit with
  | none => false
  | some most => l.rank ≤ most.rank

/-- One line of the log. -/
structure Line where
  level : Level
  target : String
  message : String
deriving Repr, DecidableEq

/-- The line as it is written, the level padded to five characters. -/
def Line.text (l : Line) : String :=
  let name := l.level.name
  let padding := String.ofList (List.replicate (5 - name.length) ' ')
  "[" ++ name ++ padding ++ "] " ++ l.target ++ ": " ++ l.message

/-- The answer to setting up a log where there is one already. -/
def alreadySetUp : String :=
  "logger: attempted to set a logger after the logging system was already initialized"

/-! ## Targets -/

/-- A part of the board that logs. -/
inductive Origin where
  | capture
  | commands
  | console
  | controller
  | diagnostics
  | display
  | hardware
  | lockout
  | scheduler
  | serial
  | settings
  | statusLed
  | tach
  | thread
  | watchdog
deriving Repr, DecidableEq

/-- The target under which a part logs. -/
def Origin.target : Origin → String
  | .capture => "fanbridge::capture"
  | .commands => "fanbridge::app::commands"
  | .console => "fanbridge::console"
  | .controller => "fanbridge::app::controller"
  | .diagnostics => "fanbridge::diagnostics"
  | .display => "fanbridge::adapters::display"
  | .hardware => "fanbridge::adapters::hardware"
  | .lockout => "fanbridge::lockout"
  | .scheduler => "fanbridge::scheduler"
  | .serial => "fanbridge::adapters::console_io::host"
  | .settings => "fanbridge::adapters::config_store"
  | .statusLed => "fanbridge::drivers::status_led"
  | .tach => "fanbridge::sensors::tach"
  | .thread => "fanbridge::drivers::task_pin"
  | .watchdog => "fanbridge::drivers::watchdog"

/-- A line of a part of the board. -/
def Origin.line (o : Origin) (level : Level) (message : String) : Line :=
  ⟨level, o.target, message⟩

end Log

/-- The lines kept so far and the limit for the next ones. -/
structure Journal where
  limit : Log.Limit := some .info
  lines : Array Log.Line := #[]
deriving Repr, DecidableEq

namespace Journal

/-- Keeps a line if the limit lets it through. -/
def add (j : Journal) (l : Log.Line) : Journal :=
  if j.limit.admits l.level then { j with lines := j.lines.push l } else j

/-- Keeps those of the lines that the limit lets through. -/
def addAll (j : Journal) (ls : List Log.Line) : Journal :=
  ls.foldl add j

/-- The journal with no lines and the same limit. -/
def cleared (j : Journal) : Journal :=
  { j with lines := #[] }

end Journal

/-- What an operation gives: a value, the state it leaves, and the lines it logs in order. -/
structure Outcome (σ α : Type) where
  value : α
  state : σ
  log : List Log.Line := []

end FanBoard
