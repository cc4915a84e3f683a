import FanBoard.Terminal.LineEditor
import FanBoard.Terminal.Pump

/-!
# A wire on the bench

A `ProbeWire` stands in for the terminal while the line editor is tried out.  It keeps what the
editor writes, the lines that it dispatches and the lines that it logs, and answers every dispatched
line with the same reply.
-/

namespace FanBoard

/-- A terminal that keeps what the editor does. -/
structure ProbeWire where
  /-- The bytes that wait for the editor. -/
  received : List UInt8 := []
  /-- The bytes written. -/
  sent : Array UInt8 := #[]
  /-- The lines dispatched, as text. -/
  lines : Array String := #[]
  /-- The reply to every line. -/
  reply : List UInt8 := []
  journal : Journal := {}
deriving DecidableEq

namespace ProbeWire

/-- Carries out an event. -/
def perform (p : ProbeWire) : Event → ProbeWire
  | .write bytes => { p with sent := p.sent ++ bytes.toArray }
  | .note line => { p with journal := p.journal.add line }
  | .dispatch raw =>
    { p with
      lines := p.lines.push (Utf8.decodeLossy raw)
      sent := p.sent ++ p.reply.toArray }

/-- The next byte that waits. -/
def readByte (p : ProbeWire) : Option UInt8 × ProbeWire :=
  match p.received with
  | [] => (none, p)
  | b :: received => (some b, { p with received })

/-- A wire on the bench as the line editor sees it. -/
def wire : Wire ProbeWire where
  readByte := readByte
  perform := perform

end ProbeWire

end FanBoard
