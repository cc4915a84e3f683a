import FanBoard.Log

/-!
# The serial line

Bytes that arrive wait in a queue until the terminal takes them.  The queue holds one byte less than
its storage.  A byte that finds the queue full is refused, and the reader of the line counts it.
-/

namespace FanBoard

/-- The storage of the queue in bytes. -/
def queueStorage : Nat := 1024

/-- The serial line as the terminal sees it. -/
structure Serial where
  /-- The bytes that wait, the oldest first. -/
  queue : List UInt8 := []
  /-- Whether a host is attached. -/
  attached : Bool := true
  /-- The number of bytes that the reader lost, in 32 bits. -/
  dropped : UInt32 := 0
deriving Repr, DecidableEq

namespace Serial

/-- Whether another byte finds room. -/
def hasRoom (s : Serial) : Bool :=
  s.queue.length + 1 < queueStorage

/-- Puts a byte into the queue, unless the queue is full. -/
def enqueue? (s : Serial) (b : UInt8) : Option Serial :=
  if s.hasRoom then some { s with queue := s.queue ++ [b] } else none

/-- The reader takes a byte off the line. -/
def receive (s : Serial) (b : UInt8) : Serial :=
  match s.enqueue? b with
  | some s => s
  | none => { s with dropped := s.dropped + 1 }

/-- The line ends. -/
def close (s : Serial) : Outcome Serial Unit where
  value := ()
  state := { s with attached := false }
  log := [Log.Origin.serial.line .debug "console: stdin closed"]

/-- The line cannot be read any more. -/
def fail (error : String) (s : Serial) : Outcome Serial Unit where
  value := ()
  state := { s with attached := false }
  log := [Log.Origin.serial.line .warn ("console: stdin read failed: " ++ error)]

/-- The next byte that waits, if there is one. -/
def readByte (s : Serial) : Option UInt8 × Serial :=
  match s.queue with
  | [] => (none, s)
  | b :: queue => (some b, { s with queue })

/-- Puts bytes into the queue and counts the refused ones. -/
def enqueueAll (s : Serial) (bytes : List UInt8) : Nat × Serial :=
  bytes.foldl
    (fun (refused, s) b =>
      match s.enqueue? b with
      | some s => (refused, s)
      | none => (refused + 1, s))
    (0, s)

/-- Takes up to `n` bytes. -/
def readUpTo : Nat → Serial → List UInt8 × Serial
  | 0, s => ([], s)
  | n + 1, s =>
    match s.readByte with
    | (none, s) => ([], s)
    | (some b, s) => let (bytes, s) := readUpTo n s; (b :: bytes, s)

end Serial

end FanBoard
