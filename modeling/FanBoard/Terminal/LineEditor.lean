import FanBoard.Log
import FanBoard.Text.Utf8

/-!
# The line editor

The terminal sends bytes, and the editor puts them together to lines:

* The bytes 00 and FF are noise and are dropped.
* Backspace and delete remove the last byte of the line, if there is one.
* A carriage return or a line feed ends the line.  An empty line is dropped.
* Any other byte is appended.  A line that reaches `lineCapacity` bytes ends at once, but it stays
  with the editor until the next byte arrives or the editor is flushed.

The editor touches nothing outside itself.  Each operation gives the `Event`s that it causes, in
order, and `Pump` carries them out.
-/

namespace FanBoard

/-- The greatest length of a line in bytes. -/
def lineCapacity : Nat := 1024

/-- What the editor asks for. -/
inductive Event where
  /-- Bytes for the terminal. -/
  | write (bytes : List UInt8)
  /-- A line for the log. -/
  | note (line : Log.Line)
  /-- A complete line for its handler. -/
  | dispatch (raw : List UInt8)
deriving Repr, DecidableEq

/-- The editor and the line that it holds. -/
structure LineEditor where
  /-- Whether the terminal is shown what it sends. -/
  echo : Bool := false
  /-- The bytes of the line so far. -/
  pending : Array UInt8 := #[]
  /-- Whether the line is full and waits to be dispatched. -/
  full : Bool := false
  /-- The number of lines dispatched, in 32 bits. -/
  lines : UInt32 := 0
  /-- The number of lines that reached the capacity, in 32 bits. -/
  overflows : UInt32 := 0
deriving Repr, DecidableEq

namespace LineEditor

/-- The bytes that end a line on the terminal. -/
def lineEnd : List UInt8 := [0x0D, 0x0A]

/-- The bytes that remove the last character on the terminal. -/
def rubOut : List UInt8 := [0x08, 0x20, 0x08]

/-- Bytes for the terminal, if it is shown what it sends. -/
def echoed (e : LineEditor) (bytes : List UInt8) : List Event :=
  if e.echo then [.write bytes] else []

def dispatchLine (raw : List UInt8) : Log.Line :=
  Log.Origin.console.line .debug ("console: dispatch '" ++ Utf8.decodeLossy raw ++ "'")

/-- The line that a full line logs. -/
def overflowLine : Log.Line :=
  Log.Origin.console.line .warn
    ("console: line exceeds " ++ toString lineCapacity ++ " bytes, dispatching")

/-- Hands the line out and starts an empty one. -/
def dispatch (e : LineEditor) : LineEditor × List Event :=
  let raw := e.pending.toList
  ({ e with pending := #[], full := false, lines := e.lines + 1 },
    [.note (dispatchLine raw), .dispatch raw])

/-- Hands a full line out. -/
def flush (e : LineEditor) : LineEditor × List Event :=
  if e.full then
    let (after, events) := e.dispatch
    (after, e.echoed lineEnd ++ events)
  else (e, [])

/-- Takes one byte.  The line is not full. -/
def accept (e : LineEditor) (b : UInt8) : LineEditor × List Event :=
  if b = 0x00 ∨ b = 0xFF then (e, [])
  else if b = 0x08 ∨ b = 0x7F then
    ({ e with pending := e.pending.pop }, e.echoed rubOut)
  else if b = 0x0D ∨ b = 0x0A then
    if e.pending.isEmpty then (e, e.echoed lineEnd)
    else
      let (after, events) := e.dispatch
      (after, e.echoed lineEnd ++ events)
  else
    let pending := e.pending.push b
    if pending.size = lineCapacity then
      ({ e with pending, full := true, overflows := e.overflows + 1 },
        e.echoed [b] ++ [.note overflowLine])
    else ({ e with pending }, e.echoed [b])

/-- Takes one byte after a full line was handed out. -/
def feed (e : LineEditor) (b : UInt8) : LineEditor × List Event :=
  let (e, before) := e.flush
  let (e, events) := e.accept b
  (e, before ++ events)

end LineEditor

end FanBoard
