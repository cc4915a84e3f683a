import FanBoard.Terminal.LineEditor

/-!
# Pumping the terminal

A `Wire` is what the editor works on: where its bytes come from and who carries out its events.  A
pump takes the bytes that wait, at most `pumpLimit` of them, and hands a full line out before it
takes the next byte.
-/

namespace FanBoard

/-- The greatest number of bytes taken by one pump. -/
def pumpLimit : Nat := 4096

/-- Where bytes come from and who carries out events, over a state `ω`. -/
structure Wire (ω : Type) where
  /-- The next byte that waits, if there is one. -/
  readByte : ω → Option UInt8 × ω
  /-- Carries out an event. -/
  perform : ω → Event → ω

namespace Wire

variable {ω : Type}

/-- Carries out events in order. -/
def performAll (wire : Wire ω) (w : ω) (events : List Event) : ω :=
  events.foldl wire.perform w

/-- Feeds one byte to the editor and carries out what it asks for. -/
def feed (wire : Wire ω) (e : LineEditor) (w : ω) (b : UInt8) : LineEditor × ω :=
  let (e, events) := e.feed b
  (e, wire.performAll w events)

/-- Hands a full line out. -/
def flush (wire : Wire ω) (e : LineEditor) (w : ω) : LineEditor × ω :=
  let (e, events) := e.flush
  (e, wire.performAll w events)

/-- Takes at most `limit` bytes and counts them from `taken` on. -/
def pumpUpTo (wire : Wire ω) : Nat → Nat → LineEditor → ω → Nat × LineEditor × ω
  | 0, taken, e, w => (taken, e, w)
  | limit + 1, taken, e, w =>
    match wire.readByte w with
    | (none, w) => (taken, e, w)
    | (some b, w) =>
      let (e, w) := wire.feed e w b
      let (e, w) := wire.flush e w
      pumpUpTo wire limit (taken + 1) e w

/-- Takes the bytes that wait and counts them. -/
def pump (wire : Wire ω) (e : LineEditor) (w : ω) : Nat × LineEditor × ω :=
  wire.pumpUpTo pumpLimit 0 e w

end Wire

end FanBoard
