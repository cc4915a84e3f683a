import FanBoard.Terminal.Serial

/-!
# The reader of the serial line

A reader takes the input of the line in pieces and puts the bytes into the queue, while the terminal
takes them out on the other side.  Every constructor of `LineReader` says what comes next, and
`LineReader.step` performs exactly one operation on what the two share.

The reader stops for good when the input ends or cannot be read.  What waits in the queue stays
there.
-/

namespace FanBoard

/-- The greatest number of bytes that the reader takes at once. -/
def readerBuffer : Nat := 64

/-- What a read of the input gives: bytes, none at the end of the input, or an error. -/
abbrev LineRead : Type := Except String (List UInt8)

/-- Where the reader stands. -/
inductive LineReader where
  /-- About to note that a host is attached. -/
  | attaching
  /-- About to read the input. -/
  | reading
  /-- About to put the first of these bytes into the queue, or about to read on. -/
  | handing (bytes : List UInt8)
  /-- About to count a byte that the queue refused.  The others come after it. -/
  | counting (byte : UInt8) (bytes : List UInt8)
  /-- About to note that the input has ended. -/
  | closing
  /-- About to note that the input cannot be read. -/
  | failing (error : String)
  | stopped
deriving Repr, DecidableEq

namespace LineReader

/-- One step.  A step that reads the input gets `read`. -/
def step (read : LineRead) : LineReader → Serial → Outcome Serial LineReader
  | .attaching, s => { value := .reading, state := { s with attached := true } }
  | .reading, s =>
    match read with
    | .ok [] => { value := .closing, state := s }
    | .ok bytes => { value := .handing bytes, state := s }
    | .error e => { value := .failing e, state := s }
  | .handing [], s => { value := .reading, state := s }
  | .handing (b :: bytes), s =>
    match s.enqueue? b with
    | some s => { value := .handing bytes, state := s }
    | none => { value := .counting b bytes, state := s }
  | .counting _ bytes, s =>
    { value := .handing bytes, state := { s with dropped := s.dropped + 1 } }
  | .closing, s => { value := .stopped, state := s.close.state, log := s.close.log }
  | .failing e, s => { value := .stopped, state := (s.fail e).state, log := (s.fail e).log }
  | .stopped, s => { value := .stopped, state := s }

end LineReader

end FanBoard
