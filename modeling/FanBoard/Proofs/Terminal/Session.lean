import FanBoard.Bench.ProbeWire
import FanBoard.Proofs.Terminal.Watched

/-!
# Sessions with the line editor

A session is a line editor and the wire that it works on, used in any order and as often as one likes:
bytes are fed by hand, the wire is pumped, a full line is handed out, the echo is switched, and
between two uses the world may change in any way.

`refines_reference` says that the editor of every session is the reference editor on the bytes taken,
however they were cut into pumps, whatever the echo was, and whatever the handler of the lines did.
-/

namespace FanBoard

variable {ω : Type}

/-- What can be done in a session. -/
inductive Use (ω : Type) where
  /-- A byte is fed by hand. -/
  | feed (b : UInt8)
  /-- The wire is pumped. -/
  | pump
  /-- A full line is handed out. -/
  | flush
  /-- The echo is switched on or off. -/
  | setEcho (echo : Bool)
  /-- The world changes. -/
  | meanwhile (change : ω → ω)

/-- A line editor and the wire that it works on. -/
structure Session (ω : Type) where
  editor : LineEditor
  terminal : Watched ω

theorem ProbeWire.wire_queues : wire.Queues ProbeWire.received where
  first p := by
    rcases p with ⟨_ | ⟨b, received⟩, sent, lines, reply, journal⟩ <;> rfl
  rest p := by
    rcases p with ⟨_ | ⟨b, received⟩, sent, lines, reply, journal⟩ <;> rfl
  perform p event := by
    cases event <;> rfl

namespace Session

/-- A session with an empty line. -/
def fresh (echo : Bool) (world : ω) : Session ω where
  editor := { echo }
  terminal := { world }

/-- One use. -/
def step (wire : Wire ω) (s : Session ω) : Use ω → Session ω
  | .feed b =>
    let (editor, terminal) := wire.watched.feed s.editor (s.terminal.take b) b
    { editor, terminal }
  | .pump =>
    let (_, editor, terminal) := wire.watched.pump s.editor s.terminal
    { editor, terminal }
  | .flush =>
    let (editor, terminal) := wire.watched.flush s.editor s.terminal
    { editor, terminal }
  | .setEcho echo => { s with editor := { s.editor with echo } }
  | .meanwhile change => { s with terminal := { s.terminal with world := change s.terminal.world } }

/-- Uses in order. -/
def run (wire : Wire ω) (s : Session ω) (uses : List (Use ω)) : Session ω :=
  uses.foldl (step wire) s

/-- A session that some uses lead to. -/
def Reachable (wire : Wire ω) (s : Session ω) : Prop :=
  ∃ echo world uses, s = run wire (fresh echo world) uses

/-- The editor agrees with the reference on the bytes taken. -/
def Tracked (s : Session ω) : Prop :=
  s.terminal.Tracked s.editor

theorem step_tracked {wire : Wire ω} {s : Session ω} (h : s.Tracked) (use : Use ω) :
    (s.step wire use).Tracked := by
  cases use with
  | feed b => exact Wire.feed_tracks h b
  | pump => exact Wire.pump_tracks h
  | flush => exact Wire.flush_tracks h
  | setEcho echo => exact LineEditor.Tracks.setEcho h echo
  | meanwhile change => exact h

theorem run_tracked {wire : Wire ω} {s : Session ω} (h : s.Tracked) (uses : List (Use ω)) :
    (s.run wire uses).Tracked := by
  induction uses generalizing s with
  | nil => exact h
  | cons use uses ih => exact ih (step_tracked h use)

theorem Reachable.tracked {wire : Wire ω} {s : Session ω} (h : s.Reachable wire) : s.Tracked := by
  obtain ⟨echo, world, uses, rfl⟩ := h
  have hfresh : (fresh echo world).Tracked := LineEditor.tracks_fresh echo
  exact run_tracked hfresh uses

/-- The editor is the reference editor on the bytes taken, and a pump takes them from a queue. -/
structure Refines (wire : Wire ω) (queue : ω → List UInt8) (s : Session ω) : Prop where
  /-- The lines handed out, and the full line that waits, are the lines of the reference. -/
  lines : s.terminal.dispatched ++ (if s.editor.full then [s.editor.pending.toList] else []) =
    (Reference.read s.terminal.consumed).lines
  /-- If no full line waits, the pending line is the unfinished line of the reference. -/
  unfinished : s.editor.full = false →
    s.editor.pending.toList = (Reference.read s.terminal.consumed).unfinished
  /-- A full line waits exactly when the pending line has reached the capacity. -/
  full_iff : s.editor.full = true ↔ s.editor.pending.size = lineCapacity
  /-- Whenever the editor takes a byte there is room for it. -/
  room : s.editor.flush.1.pending.size < lineCapacity
  /-- The lines handed out are counted, in 32 bits. -/
  lines_count : s.editor.lines = UInt32.ofNat s.terminal.dispatched.length
  /-- The lines that reached the capacity are counted, in 32 bits. -/
  overflows_count : s.editor.overflows =
    UInt32.ofNat (Reference.read s.terminal.consumed).overflows
  /-- A pump takes the bytes of the queue up to its limit. -/
  pump_count : (wire.watched.pump s.editor s.terminal).1 =
    min pumpLimit (queue s.terminal.world).length
  /-- It takes the first ones, in order. -/
  pump_consumed : (s.step wire .pump).terminal.consumed =
    s.terminal.consumed ++ (queue s.terminal.world).take pumpLimit
  /-- It leaves the others, in order. -/
  pump_queue : queue (s.step wire .pump).terminal.world =
    (queue s.terminal.world).drop pumpLimit
  /-- If it took a byte, no full line waits afterwards. -/
  pump_full : (wire.watched.pump s.editor s.terminal).1 ≠ 0 →
    (s.step wire .pump).editor.full = false

/-- In every session the line editor is the reference editor on the bytes taken. -/
theorem refines_reference {wire : Wire ω} {queue : ω → List UInt8} (hqueue : wire.Queues queue)
    {s : Session ω} (hs : s.Reachable wire) : s.Refines wire queue := by
  have htracked : s.editor.Tracks s.terminal.dispatched (Reference.read s.terminal.consumed) :=
    hs.tracked
  obtain ⟨hcount, hconsumed, hleft, _⟩ := hqueue.pumpUpTo_takes pumpLimit 0 s.editor s.terminal
  exact
    { lines := htracked.lines
      unfinished := htracked.unfinished_of_collecting
      full_iff := htracked.full_iff
      room := htracked.flush.room_of_collecting s.editor.flush_full
      lines_count := htracked.lines_count
      overflows_count := htracked.overflows_count
      pump_count := hcount.trans (Nat.zero_add _)
      pump_consumed := hconsumed
      pump_queue := hleft
      pump_full := fun hsome => Wire.pumpUpTo_full s.terminal pumpLimit 0 (Or.inr hsome) }

/-- On the bench: a line of the greatest length is fed by hand, more arrives, and it is pumped. -/
def overlong : List (Use ProbeWire) :=
  List.replicate lineCapacity (.feed 0x61) ++
    [.meanwhile fun p => { p with received := List.replicate 5000 0x62 }, .pump]

theorem refines_reference_overlong :
    ProbeWire.wire.Queues ProbeWire.received ∧
      (run ProbeWire.wire (fresh true {}) overlong).Reachable ProbeWire.wire ∧
      (run ProbeWire.wire (fresh true {}) overlong).Refines ProbeWire.wire ProbeWire.received := by
  have hreachable : (run ProbeWire.wire (fresh true {}) overlong).Reachable ProbeWire.wire :=
    ⟨true, {}, overlong, rfl⟩
  exact ⟨ProbeWire.wire_queues, hreachable, refines_reference ProbeWire.wire_queues hreachable⟩

end Session

end FanBoard
