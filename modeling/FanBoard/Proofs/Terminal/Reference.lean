import FanBoard.Terminal.LineEditor
import Mathlib.Tactic.SplitIfs

/-!
# The reference line editor

`Reference` says what the lines of a stream of bytes are.  It has no echo, no counters, and no line
that waits: a line that reaches the capacity ends at once.

`LineEditor.Tracks` relates the line editor to it.  The lines handed out so far, and the full line if
there is one, are the lines of the reference, and otherwise both hold the same unfinished line.

* `Tracks.flush`: handing a full line out changes nothing in the reference.
* `Tracks.accept`: a byte moves both on, unless a full line waits.
* `Tracks.feed`: a byte moves both on.
-/

namespace FanBoard

/-! ## The lines of a stream -/

/-- The lines of a stream of bytes and the line that has not ended. -/
structure Reference where
  lines : List (List UInt8) := []
  unfinished : List UInt8 := []

namespace Reference

/-- Takes one byte. -/
def take (r : Reference) (b : UInt8) : Reference :=
  if b = 0x00 ∨ b = 0xFF then r
  else if b = 0x08 ∨ b = 0x7F then { r with unfinished := r.unfinished.dropLast }
  else if b = 0x0D ∨ b = 0x0A then
    if r.unfinished = [] then r
    else { lines := r.lines ++ [r.unfinished], unfinished := [] }
  else if r.unfinished.length + 1 = lineCapacity then
    { lines := r.lines ++ [r.unfinished ++ [b]], unfinished := [] }
  else { r with unfinished := r.unfinished ++ [b] }

/-- Reads a stream from its beginning. -/
def read (bytes : List UInt8) : Reference :=
  bytes.foldl take {}

theorem read_append (front back : List UInt8) : read (front ++ back) = back.foldl take (read front) :=
  List.foldl_append

/-- The number of lines that reached the capacity. -/
def overflows (r : Reference) : Nat :=
  r.lines.countP fun line => line.length = lineCapacity

end Reference

/-! ## The editor against the reference -/

/-- The lines that events hand out. -/
def Event.dispatched : List Event → List (List UInt8)
  | [] => []
  | .dispatch raw :: events => raw :: dispatched events
  | .write _ :: events => dispatched events
  | .note _ :: events => dispatched events

theorem Event.dispatched_append (front back : List Event) :
    dispatched (front ++ back) = dispatched front ++ dispatched back := by
  induction front with
  | nil => rfl
  | cons event front ih => cases event <;> simp [dispatched, ih]

theorem Event.dispatched_cons (event : Event) (events : List Event) :
    dispatched (event :: events) = dispatched [event] ++ dispatched events := by
  rw [← dispatched_append, List.singleton_append]

namespace LineEditor

/-- The full line that waits, if there is one. -/
def waiting (e : LineEditor) : List (List UInt8) :=
  if e.full then [e.pending.toList] else []

/-- The editor, after it handed out `out`, stands where the reference stands. -/
structure Tracks (e : LineEditor) (out : List (List UInt8)) (r : Reference) : Prop where
  lines : out ++ e.waiting = r.lines
  unfinished : (if e.full then [] else e.pending.toList) = r.unfinished
  full_iff : e.full = true ↔ e.pending.size = lineCapacity
  room : e.pending.size ≤ lineCapacity
  lines_count : e.lines = UInt32.ofNat out.length
  overflows_count : e.overflows = UInt32.ofNat r.overflows

@[simp] theorem dispatched_echoed (e : LineEditor) (bytes : List UInt8) :
    Event.dispatched (e.echoed bytes) = [] := by
  unfold echoed
  split <;> rfl

theorem tracks_fresh (echo : Bool) : Tracks { echo } [] {} where
  lines := rfl
  unfinished := rfl
  full_iff := by simp [lineCapacity]
  room := Nat.zero_le _
  lines_count := rfl
  overflows_count := rfl

/-- After a full line was handed out no full line waits. -/
theorem flush_full (e : LineEditor) : e.flush.1.full = false := by
  cases hfull : e.full with
  | true => simp only [flush, hfull, if_true, dispatch]
  | false => simp only [flush, hfull, Bool.false_eq_true, if_false]

namespace Tracks

variable {e : LineEditor} {out : List (List UInt8)} {r : Reference}

/-- The echo does not matter. -/
theorem setEcho (h : e.Tracks out r) (echo : Bool) : Tracks { e with echo } out r :=
  ⟨h.lines, h.unfinished, h.full_iff, h.room, h.lines_count, h.overflows_count⟩

/-- While no full line waits there is room for one more byte. -/
theorem room_of_collecting (h : e.Tracks out r) (hfull : e.full = false) :
    e.pending.size < lineCapacity := by
  refine Nat.lt_of_le_of_ne h.room fun hsize => ?_
  rw [h.full_iff.mpr hsize] at hfull
  exact Bool.noConfusion hfull

theorem lines_of_collecting (h : e.Tracks out r) (hfull : e.full = false) : out = r.lines := by
  rw [← h.lines, waiting, hfull]
  simp

theorem unfinished_of_collecting (h : e.Tracks out r) (hfull : e.full = false) :
    e.pending.toList = r.unfinished := by
  rw [← h.unfinished, hfull]
  simp

/-- Handing out the pending line `raw` when the reference has it as its last line. -/
theorem dispatch {r' : Reference} (hlines : r'.lines = out ++ [e.pending.toList])
    (hunfinished : r'.unfinished = []) (hcount : e.lines = UInt32.ofNat out.length)
    (hoverflows : e.overflows = UInt32.ofNat r'.overflows) :
    e.dispatch.1.Tracks (out ++ Event.dispatched e.dispatch.2) r' where
  lines := by simp [LineEditor.dispatch, Event.dispatched, waiting, hlines]
  unfinished := by simp [LineEditor.dispatch, hunfinished]
  full_iff := by simp [LineEditor.dispatch, lineCapacity]
  room := Nat.zero_le _
  lines_count := by simp [LineEditor.dispatch, Event.dispatched, hcount]
  overflows_count := hoverflows

/-- Handing a full line out changes nothing in the reference. -/
theorem flush (h : e.Tracks out r) :
    e.flush.1.Tracks (out ++ Event.dispatched e.flush.2) r := by
  cases hfull : e.full with
  | true =>
    have hlines : r.lines = out ++ [e.pending.toList] := by
      rw [← h.lines, waiting, hfull, if_pos rfl]
    have hunfinished : r.unfinished = [] := by
      rw [← h.unfinished, hfull, if_pos rfl]
    have hdispatch := dispatch hlines hunfinished h.lines_count h.overflows_count
    simpa [LineEditor.flush, hfull, Event.dispatched_append] using hdispatch
  | false => simpa [LineEditor.flush, hfull, Event.dispatched] using h

/-- Removing the last byte. -/
theorem rubOut (h : e.Tracks out r) (hfull : e.full = false) :
    Tracks { e with pending := e.pending.pop } out { r with unfinished := r.unfinished.dropLast } where
  lines := by simpa [waiting, hfull] using h.lines_of_collecting hfull
  unfinished := by simp [hfull, h.unfinished_of_collecting hfull]
  full_iff := by
    have hroom := h.room_of_collecting hfull
    simp only [hfull, Array.size_pop, Bool.false_eq_true, false_iff]
    omega
  room := by
    have hroom := h.room
    simp only [Array.size_pop]
    omega
  lines_count := h.lines_count
  overflows_count := h.overflows_count

/-- Ending a line that is not empty. -/
theorem finish (h : e.Tracks out r) (hfull : e.full = false) :
    e.dispatch.1.Tracks (out ++ Event.dispatched e.dispatch.2)
      { lines := r.lines ++ [r.unfinished], unfinished := [] } := by
  have hunfinished := h.unfinished_of_collecting hfull
  have hshort : r.unfinished.length ≠ lineCapacity := by
    rw [← hunfinished, Array.length_toList]
    exact Nat.ne_of_lt (h.room_of_collecting hfull)
  refine dispatch ?_ rfl h.lines_count ?_
  · rw [h.lines_of_collecting hfull, hunfinished]
  · rw [h.overflows_count]
    simp [Reference.overflows, hshort]

/-- Appending a byte that fills the line. -/
theorem fill (h : e.Tracks out r) (hfull : e.full = false) {b : UInt8}
    (hsize : (e.pending.push b).size = lineCapacity) :
    Tracks { e with pending := e.pending.push b, full := true, overflows := e.overflows + 1 } out
      { lines := r.lines ++ [r.unfinished ++ [b]], unfinished := [] } where
  lines := by
    simp [waiting, h.lines_of_collecting hfull, h.unfinished_of_collecting hfull]
  unfinished := rfl
  full_iff := by simp [hsize]
  room := Nat.le_of_eq hsize
  lines_count := h.lines_count
  overflows_count := by
    have hlength : (r.unfinished ++ [b]).length = lineCapacity := by
      rw [← h.unfinished_of_collecting hfull, ← Array.toList_push, Array.length_toList, hsize]
    have hcount : Reference.overflows
        { lines := r.lines ++ [r.unfinished ++ [b]], unfinished := [] } = r.overflows + 1 := by
      rw [Reference.overflows, List.countP_append, List.countP_singleton, hlength]
      simp [Reference.overflows]
    rw [hcount, h.overflows_count, UInt32.ofNat_add]
    rfl

/-- Appending a byte that leaves room. -/
theorem append (h : e.Tracks out r) (hfull : e.full = false) {b : UInt8}
    (hsize : (e.pending.push b).size ≠ lineCapacity) :
    Tracks { e with pending := e.pending.push b } out
      { r with unfinished := r.unfinished ++ [b] } where
  lines := by simpa [waiting, hfull] using h.lines_of_collecting hfull
  unfinished := by simp [hfull, h.unfinished_of_collecting hfull]
  full_iff := by simpa [hfull] using hsize
  room := by
    rw [Array.size_push]
    exact h.room_of_collecting hfull
  lines_count := h.lines_count
  overflows_count := h.overflows_count

/-- A byte moves both on, unless a full line waits. -/
theorem accept (h : e.Tracks out r) (hfull : e.full = false) (b : UInt8) :
    (e.accept b).1.Tracks (out ++ Event.dispatched (e.accept b).2) (r.take b) := by
  have hunfinished := h.unfinished_of_collecting hfull
  have hempty : e.pending.isEmpty = true ↔ r.unfinished = [] := by
    rw [← hunfinished, Array.toList_eq_nil_iff, Array.isEmpty_iff]
  have hsize : r.unfinished.length + 1 = (e.pending.push b).size := by
    rw [← hunfinished, Array.length_toList, Array.size_push]
  simp only [LineEditor.accept, Reference.take, hempty, hsize]
  split_ifs with hnoise hrub hend hnone hfill
  · simpa [Event.dispatched] using h
  · simpa using h.rubOut hfull
  · simpa using h
  · simpa [Event.dispatched_append] using h.finish hfull
  · simpa [Event.dispatched_append, Event.dispatched] using h.fill hfull hfill
  · simpa using h.append hfull hfill

/-- A byte moves both on. -/
theorem feed (h : e.Tracks out r) (b : UInt8) :
    (e.feed b).1.Tracks (out ++ Event.dispatched (e.feed b).2) (r.take b) := by
  simp only [LineEditor.feed, Event.dispatched_append, ← List.append_assoc]
  exact h.flush.accept e.flush_full b

end Tracks

end LineEditor

end FanBoard
