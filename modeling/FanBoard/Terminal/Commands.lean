import FanBoard.Metrics
import FanBoard.Number.FixedPlaces
import FanBoard.Settings.Basic
import FanBoard.Shared
import FanBoard.Text.Blank

/-!
# Commands

A line from the terminal is a command word, in any case, and what follows it.  Blanks around the
line and between the word and what follows do not matter.  `Command.parse?` reads a line, and
`Commands.process` carries the command out and answers with whole lines.  A line that is no command
is answered `ERR`.
-/

namespace FanBoard

/-- The version of the board's program. -/
def firmwareVersion : String := "0.3.0"

/-- The name of the board. -/
def model : String := "FANBRIDGE-4"

/-! ## Reading a line -/

/-- What the terminal can ask for. -/
inductive Command where
  /-- Who are you? -/
  | identify
  /-- Which version? -/
  | version
  /-- The figures of the running board. -/
  | status
  /-- The signals. -/
  | measure
  /-- The limit of the log. -/
  | logLimit
  /-- A new limit of the log. -/
  | setLogLimit (limit : Log.Level)
  /-- A trial of the lockout. -/
  | tryLockout
deriving Repr, DecidableEq

/-- The limit of the log that a number stands for. -/
def logLevel? : Nat → Option Log.Level
  | 0 => some .error
  | 1 => some .warn
  | 2 => some .info
  | 3 => some .debug
  | 4 => some .trace
  | _ => none

/-- The number that stands for a limit of the log. -/
def logNumber : Log.Limit → Nat
  | none => 0
  | some .error => 0
  | some .warn => 1
  | some .info => 2
  | some .debug => 3
  | some .trace => 4

/-- The number that decimal digits spell, if it is below 256. -/
def smallNumber? (cs : List Char) : Option Nat :=
  let digits := match cs with
    | '+' :: rest => rest
    | cs => cs
  if digits.isEmpty ∨ !digits.all Char.isDigit then none
  else
    let n := digits.foldl (fun n c => 10 * n + (c.toNat - 48)) 0
    if n < 256 then some n else none

/-- The command of a word in capitals and what follows it. -/
def Command.ofWords? (word : String) (argument : List Char) : Option Command :=
  if word = "SYS:DEBUG" then
    ((smallNumber? argument).bind logLevel?).map .setLogLimit
  else if !argument.isEmpty then none
  else if word = "*IDN?" then some .identify
  else if word = "SYS:VER?" then some .version
  else if word = "SYS:STAT?" then some .status
  else if word = "MEAS?" then some .measure
  else if word = "SYS:DEBUG?" then some .logLimit
  else if word = "SYS:LOCKOUT" then some .tryLockout
  else none

/-- The command of a line. -/
def Command.parse? (line : String) : Option Command :=
  let (word, rest) := Blank.splitWord (Blank.trim line.toList)
  Command.ofWords? (String.ofList (word.map Char.toUpper)) (Blank.trim rest)

/-! ## Carrying a command out -/

/-- What a command sees of the board. -/
structure Context where
  signals : Signals
  settings : Settings
  metrics : LoopMetrics
  shared : Shared

/-- The counters of the commands, in 32 bits. -/
structure Commands where
  /-- Lines that were commands. -/
  handled : UInt32 := 0
  /-- Lines that were not. -/
  rejected : UInt32 := 0
deriving Repr, DecidableEq

/-- The line that shows the duty and the tach frequency of one fan or header. -/
def channelLine (name : String) (number : Nat) (duty tach : Float32) : String :=
  name ++ toString number ++ ",duty=" ++ FixedPlaces.text 1 duty
    ++ ",freq=" ++ FixedPlaces.text 2 tach

/-- The line that shows one temperature. -/
def sensorLine (number : Nat) (temperature : Float32) : String :=
  "sensor" ++ toString number ++ ",temp=" ++ FixedPlaces.text 1 temperature

/-- The lines that show the signals. -/
def Signals.lines (s : Signals) : List String :=
  (List.finRange headerCount).map (fun i : Fin headerCount =>
      channelLine "mbfan" (i.val + 1) (s.headerDuty.get i) (s.headerTach.get i))
    ++ (List.finRange fanCount).map (fun i : Fin fanCount =>
      channelLine "fan" (i.val + 1) (s.fanDuty.get i) (s.fanTach.get i))
    ++ (List.finRange sensorCount).map (fun i : Fin sensorCount =>
      sensorLine (i.val + 1) (s.temperature.get i))

namespace Command

/-- The answer to a trial of the lockout, which is released at once. -/
def answerLockout (peer : Nat → Lockout.Words → Lockout.Words) (c : Context) :
    List String × Context :=
  let (verdict, shared) := c.shared.acquire peer c.settings.lockoutTimeout
  match verdict with
  | .held => (["OK"], { c with shared := { shared with lockout := shared.lockout.release } })
  | .refused f => (["ERR " ++ f.message], { c with shared })
  | .waiting => ([], { c with shared })

/-- The context with a new limit of the log. -/
def changeLimit (level : Log.Level) (c : Context) : Context :=
  let journal := { c.shared.journal with limit := some level }
  let line := Log.Origin.commands.line .info ("console: log level set to " ++ level.name)
  { c with shared := { c.shared with journal }.note line }

/-- Carries a command out and gives the lines of the answer. -/
def answer (peer : Nat → Lockout.Words → Lockout.Words) (c : Context) :
    Command → List String × Context
  | .identify => (["FanBridge," ++ model ++ ",0," ++ firmwareVersion], c)
  | .version => ([firmwareVersion], c)
  | .status => ([(c.metrics.report c.shared.slots c.shared.lockout.rounds).line], c)
  | .measure => (c.signals.lines, c)
  | .logLimit => ([toString (logNumber c.shared.journal.limit)], c)
  | .setLogLimit level => (["OK"], changeLimit level c)
  | .tryLockout => answerLockout peer c

end Command

namespace Commands

/-- Carries out the command of a line, counts it, and gives the lines of the answer.  During a trial
of the lockout the other core does what `peer` says. -/
def process (peer : Nat → Lockout.Words → Lockout.Words) (counters : Commands) (c : Context)
    (line : String) : Commands × List String × Context :=
  match Command.parse? line with
  | some command =>
    let (answer, c) := command.answer peer c
    ({ counters with handled := counters.handled + 1 }, answer, c)
  | none => ({ counters with rejected := counters.rejected + 1 }, ["ERR"], c)

end Commands

end FanBoard
