import FanBoard.Proofs.Terminal.Pump
import FanBoard.Proofs.Terminal.Reference

/-!
# A wire with its history

`Wire.watched` is a wire with the same behaviour that also keeps the bytes taken and the lines handed
out.

* `feed_tracks`, `flush_tracks` and `pump_tracks`: the line editor on a watched wire stays with the
  reference on the bytes taken.
* `pump_takes`: from a queue a pump takes the first bytes, as many as it may, and leaves the others.
-/

namespace FanBoard

variable {ω : Type}

/-- A state of a wire and its history. -/
structure Watched (ω : Type) where
  world : ω
  /-- The bytes taken. -/
  consumed : List UInt8 := []
  /-- The lines handed out, byte for byte. -/
  dispatched : List (List UInt8) := []

namespace Watched

/-- Takes a byte. -/
def take (x : Watched ω) (b : UInt8) : Watched ω :=
  { x with consumed := x.consumed ++ [b] }

/-- The line editor agrees with the reference on the bytes taken. -/
def Tracked (x : Watched ω) (e : LineEditor) : Prop :=
  e.Tracks x.dispatched (Reference.read x.consumed)

end Watched

/-- The lines that the editor hands out in a pump that takes the given bytes. -/
def LineEditor.handedOut (e : LineEditor) : List UInt8 → List (List UInt8)
  | [] => []
  | b :: bytes =>
    let (fed, events) := e.feed b
    let (flushed, rest) := fed.flush
    Event.dispatched (events ++ rest) ++ flushed.handedOut bytes

namespace Wire

variable (wire : Wire ω)

/-- The wire with its history kept. -/
def watched : Wire (Watched ω) where
  readByte x :=
    let (b, world) := wire.readByte x.world
    (b, { x with world, consumed := x.consumed ++ b.toList })
  perform x event :=
    { x with
      world := wire.perform x.world event
      dispatched := x.dispatched ++ Event.dispatched [event] }

section Read

variable {wire} {x : Watched ω} {world : ω}

theorem watched_readByte_none (h : wire.readByte x.world = (none, world)) :
    wire.watched.readByte x = (none, { x with world }) := by
  simp [watched, h]

theorem watched_readByte_some {b : UInt8} (h : wire.readByte x.world = (some b, world)) :
    wire.watched.readByte x = (some b, Watched.take { x with world } b) := by
  simp [watched, h, Watched.take]

end Read

theorem watched_performAll (x : Watched ω) (events : List Event) :
    wire.watched.performAll x events =
      { world := wire.performAll x.world events
        consumed := x.consumed
        dispatched := x.dispatched ++ Event.dispatched events } := by
  induction events generalizing x with
  | nil => simp [performAll, Event.dispatched]
  | cons event events ih =>
    rw [performAll, List.foldl_cons, ← performAll, ih, Event.dispatched_cons, ← List.append_assoc]
    rfl

/-- Keeping the history changes nothing that a pump does. -/
theorem pump_watched (e : LineEditor) (x : Watched ω) :
    wire.pump e x.world =
      ((wire.watched.pump e x).1, (wire.watched.pump e x).2.1,
        (wire.watched.pump e x).2.2.world) :=
  pump_hom (f := Watched.world) (fun _ => rfl) (fun _ _ => rfl) e x

/-! ## With the reference -/

variable {wire} {e : LineEditor} {x : Watched ω}

theorem flush_tracks (h : x.Tracked e) :
    (wire.watched.flush e x).2.Tracked (wire.watched.flush e x).1 := by
  simp only [flush, watched_performAll]
  exact LineEditor.Tracks.flush h

theorem feed_tracks (h : x.Tracked e) (b : UInt8) :
    (wire.watched.feed e (x.take b) b).2.Tracked (wire.watched.feed e (x.take b) b).1 := by
  have hfeed := LineEditor.Tracks.feed h b
  simp only [feed, watched_performAll, Watched.Tracked, Watched.take, Reference.read_append]
  exact hfeed

theorem pump_tracks (h : x.Tracked e) :
    (wire.watched.pump e x).2.2.Tracked (wire.watched.pump e x).2.1 := by
  refine pump_carries (P := fun e x => Watched.Tracked x e) ?_ ?_ h
  · intro e x x' hnone hx
    rcases hbyte : wire.readByte x.world with ⟨_ | b, world⟩
    · rw [watched_readByte_none hbyte] at hnone
      cases hnone
      exact hx
    · rw [watched_readByte_some hbyte] at hnone
      cases hnone
  · intro e x x' b hsome hx
    rcases hbyte : wire.readByte x.world with ⟨_ | b', world⟩
    · rw [watched_readByte_none hbyte] at hsome
      cases hsome
    · rw [watched_readByte_some hbyte] at hsome
      cases hsome
      have hworld : Watched.Tracked { x with world } e := hx
      exact flush_tracks (feed_tracks hworld b)

/-- After a pump that took a byte no full line waits. -/
theorem pumpUpTo_full {wire : Wire ω} {e : LineEditor} (w : ω) (limit taken : Nat)
    (h : e.full = false ∨ (wire.pumpUpTo limit taken e w).1 ≠ taken) :
    (wire.pumpUpTo limit taken e w).2.1.full = false := by
  induction limit generalizing taken e w with
  | zero => simpa [pumpUpTo] using h
  | succ limit ih =>
    rcases hbyte : wire.readByte w with ⟨_ | b, w'⟩
    · rw [pumpUpTo_none hbyte] at h ⊢
      simpa using h
    · rw [pumpUpTo_some hbyte]
      exact ih _ _ (Or.inl (LineEditor.flush_full _))

/-! ## From a queue -/

/-- The bytes that wait are a queue: reading takes the first one, and no event touches it. -/
structure Queues (wire : Wire ω) (queue : ω → List UInt8) : Prop where
  first : ∀ w, (wire.readByte w).1 = (queue w).head?
  rest : ∀ w, queue (wire.readByte w).2 = (queue w).tail
  perform : ∀ w event, queue (wire.perform w event) = queue w

variable {queue : ω → List UInt8}

namespace Queues

theorem performAll (hqueue : wire.Queues queue) (w : ω) (events : List Event) :
    queue (wire.performAll w events) = queue w :=
  performAll_keeps (P := fun w' => queue w' = queue w)
    (fun w' event hw' => (hqueue.perform w' event).trans hw') rfl events

/-- Feeding a byte and handing a full line out leaves the queue and the bytes taken alone. -/
theorem take_watched (hqueue : wire.Queues queue) (e : LineEditor) (x : Watched ω) (b : UInt8) :
    queue (wire.watched.take e x b).2.world = queue x.world ∧
      (wire.watched.take e x b).2.consumed = x.consumed ∧
      (wire.watched.take e x b).2.dispatched =
        x.dispatched ++ Event.dispatched ((e.feed b).2 ++ (e.feed b).1.flush.2) := by
  simp only [take, feed, flush, watched_performAll, hqueue.performAll, Event.dispatched_append,
    List.append_assoc, and_self]

/-- From a queue the first bytes are taken, as many as may be, and the others stay.  The lines handed
out are those that the editor makes of the bytes taken. -/
theorem pumpUpTo_takes (hqueue : wire.Queues queue) (limit taken : Nat) (e : LineEditor)
    (x : Watched ω) :
    let result := wire.watched.pumpUpTo limit taken e x
    result.1 = taken + min limit (queue x.world).length ∧
      result.2.2.consumed = x.consumed ++ (queue x.world).take limit ∧
      queue result.2.2.world = (queue x.world).drop limit ∧
      result.2.2.dispatched = x.dispatched ++ e.handedOut ((queue x.world).take limit) := by
  induction limit generalizing taken e x with
  | zero => simp [pumpUpTo, LineEditor.handedOut]
  | succ limit ih =>
    have hfirst := hqueue.first x.world
    have hrest := hqueue.rest x.world
    rcases hbyte : wire.readByte x.world with ⟨_ | b, world⟩
    · rw [pumpUpTo_none (watched_readByte_none hbyte)]
      rw [hbyte] at hfirst hrest
      have hempty : queue x.world = [] := List.head?_eq_none_iff.mp hfirst.symm
      simp [hempty, hrest, LineEditor.handedOut]
    · rw [pumpUpTo_some (watched_readByte_some hbyte)]
      rw [hbyte] at hfirst hrest
      have hcons : queue x.world = b :: queue world := by
        obtain ⟨tail, htail⟩ := List.head?_eq_some_iff.mp hfirst.symm
        rw [hrest, htail, List.tail_cons]
      obtain ⟨hworld, hconsumed, hlines⟩ :=
        hqueue.take_watched e (Watched.take { x with world } b) b
      obtain ⟨hcount, htaken, hleft, hdispatched⟩ := ih (taken + 1) (wire.watched.take e _ b).1
        (wire.watched.take e (Watched.take { x with world } b) b).2
      simp only [hworld, hconsumed, hlines] at hcount htaken hleft hdispatched
      refine ⟨?_, ?_, ?_, ?_⟩
      · rw [hcount, hcons, List.length_cons]
        simp only [Watched.take]
        omega
      · rw [htaken, hcons]
        simp [Watched.take]
      · rw [hleft, hcons]
        rfl
      · rw [hdispatched, hcons, List.append_assoc]
        rfl

end Queues

end Wire

end FanBoard
