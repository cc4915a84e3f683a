import FanBoard.Terminal.LineReader
import Mathlib.Data.List.Induction

/-!
# From the input to the terminal

The reader of the serial line and the terminal run side by side.  `Feed` is the state of both, with
the input on one side and what the terminal took on the other, and a `Move` says who goes next.  A
run is a list of moves, and every interleaving is one.  The input hands out its bytes in pieces of
any size that the reader takes, and a read may fail at any time.

* `Sound` is the invariant: nothing is lost on the way but the bytes that the queue refused, and
  these are counted.  `advance_sound` and `take_sound` are one move, and `run_sound` is a whole run.
* `delivered_in_order` reads the result off the invariant.
* `serial_of_unread` says what becomes of the line when the terminal takes nothing: the steps of the
  reader add up to `Serial.receive`, which keeps the first 1023 bytes.
-/

namespace FanBoard

/-! ## The queue -/

namespace Serial

variable {s : Serial}

/-- The storage holds one byte more than the queue takes. -/
theorem hasRoom_eq_false_iff (h : s.queue.length < queueStorage) :
    s.hasRoom = false ↔ s.queue.length = 1023 := by
  rw [hasRoom, decide_eq_false_iff_not]
  simp only [queueStorage] at h ⊢
  omega

theorem receive_of_hasRoom (h : s.hasRoom = true) (b : UInt8) :
    s.receive b = { s with queue := s.queue ++ [b] } := by
  simp [receive, enqueue?, h]

theorem receive_of_full (h : s.hasRoom = false) (b : UInt8) :
    s.receive b = { s with dropped := s.dropped + 1 } := by
  simp [receive, enqueue?, h]

/-- What the line takes does not depend on the host. -/
theorem receive_attached (s : Serial) (attached : Bool) (b : UInt8) :
    { s with attached }.receive b = { s.receive b with attached } := by
  cases hroom : s.hasRoom with
  | true =>
    rw [receive_of_hasRoom hroom]
    exact receive_of_hasRoom (s := { s with attached }) hroom b
  | false =>
    rw [receive_of_full hroom]
    exact receive_of_full (s := { s with attached }) hroom b

/-- With nobody to take them, the first 1023 bytes wait and the others are counted. -/
theorem foldl_receive (bytes : List UInt8) :
    bytes.foldl receive {} =
      { queue := bytes.take 1023, dropped := UInt32.ofNat (bytes.length - 1023) } := by
  induction bytes using List.reverseRecOn with
  | nil => rfl
  | append_singleton bytes b ih =>
    rw [List.foldl_append, ih, List.foldl_cons, List.foldl_nil]
    by_cases hroom : bytes.length < 1023
    · have hall : (bytes ++ [b]).take 1023 = bytes.take 1023 ++ [b] := by
        rw [List.take_of_length_le (Nat.le_of_lt hroom)]
        exact List.take_of_length_le (by rw [List.length_append]; exact hroom)
      have hnone : (bytes ++ [b]).length - 1023 = bytes.length - 1023 := by
        rw [List.length_append, List.length_singleton]
        omega
      rw [receive_of_hasRoom, hall, hnone]
      rw [hasRoom, decide_eq_true_iff, List.length_take, queueStorage]
      omega
    · have hfirst : (bytes ++ [b]).take 1023 = bytes.take 1023 :=
        List.take_append_of_le_length (Nat.le_of_not_lt hroom)
      have hone : (bytes ++ [b]).length - 1023 = bytes.length - 1023 + 1 := by
        rw [List.length_append, List.length_singleton]
        omega
      rw [receive_of_full, hfirst, hone, UInt32.ofNat_add]
      · rfl
      · rw [hasRoom, decide_eq_false_iff_not, List.length_take, queueStorage]
        omega

end Serial

/-! ## Both ends -/

/-- A byte that the reader is done with. -/
structure Handled where
  byte : UInt8
  /-- Whether the queue refused it. -/
  refused : Bool
deriving DecidableEq

/-- The bytes that went into the queue. -/
def accepted (hs : List Handled) : List UInt8 :=
  (hs.filter fun h => !h.refused).map Handled.byte

/-- The number of bytes that were refused. -/
def refusals (hs : List Handled) : Nat :=
  hs.countP Handled.refused

namespace LineReader

/-- The bytes that the reader has read and is not done with. -/
def inHand : LineReader → List UInt8
  | .handing bytes => bytes
  | .counting b bytes => b :: bytes
  | _ => []

/-- The reader has noted that a host is attached, and not that it is gone. -/
def isAttached : LineReader → Bool
  | .attaching | .stopped => false
  | _ => true

/-- A read has ended the input for the reader. -/
def hasEnded : LineReader → Bool
  | .closing | .failing _ | .stopped => true
  | _ => false

/-- No step leads back to the start. -/
theorem step_value_ne_attaching (read : LineRead) (r : LineReader) (s : Serial) :
    (r.step read s).value ≠ .attaching := by
  cases r with
  | reading => rcases read with e | ⟨_ | _⟩ <;> nofun
  | handing bytes =>
    cases bytes with
    | nil => nofun
    | cons b bytes =>
      simp only [step]
      split <;> nofun
  | _ => nofun

theorem hasEnded_of_not_isAttached {r : LineReader} (h : r.isAttached = false)
    (hstarted : r ≠ .attaching) : r.hasEnded = true := by
  cases r with
  | attaching => exact absurd rfl hstarted
  | stopped => rfl
  | _ => cases h

end LineReader

/-- The serial line with its reader on one side and the terminal on the other. -/
structure Feed where
  /-- At first nobody has noted a host. -/
  serial : Serial := { attached := false }
  reader : LineReader := .attaching
  /-- The bytes that the input has not given yet. -/
  input : List UInt8
  /-- What the reads of the input gave, in order. -/
  reads : List LineRead := []
  /-- The bytes that the reader is done with, in order. -/
  handled : List Handled := []
  /-- The bytes that the terminal took, in order. -/
  taken : List UInt8 := []

namespace Feed

/-- How the input answers a read. -/
inductive Answer where
  /-- With `n + 1` bytes, or with all that are left. -/
  | bytes (n : Fin readerBuffer)
  | error (message : String)

/-- What a read gives. -/
def answer (f : Feed) : Answer → LineRead
  | .bytes n => .ok (f.input.take (n + 1))
  | .error message => .error message

/-- What a read leaves of the input. -/
def left (f : Feed) : Answer → List UInt8
  | .bytes n => f.input.drop (n + 1)
  | .error _ => f.input

/-- The reader goes one step.  A step that reads the input gets the answer `a`. -/
def advance (a : Answer) (f : Feed) : Feed :=
  let stepped := f.reader.step (f.answer a) f.serial
  let moved := { f with reader := stepped.value, serial := stepped.state }
  match f.reader with
  | .reading => { moved with input := f.left a, reads := f.reads ++ [f.answer a] }
  | .handing (b :: bytes) =>
    if stepped.value = .handing bytes then { moved with handled := f.handled ++ [⟨b, false⟩] }
    else moved
  | .counting b _ => { moved with handled := f.handled ++ [⟨b, true⟩] }
  | _ => moved

/-- The terminal reads a byte, if one waits. -/
def take (f : Feed) : Feed :=
  let (b, serial) := f.serial.readByte
  { f with serial, taken := f.taken ++ b.toList }

/-- Who goes next. -/
inductive Move where
  | reader (a : Answer)
  | terminal

def move (f : Feed) : Move → Feed
  | .reader a => f.advance a
  | .terminal => f.take

/-- The moves in order. -/
def run (f : Feed) (moves : List Move) : Feed :=
  moves.foldl move f

section

variable {f : Feed} {b : UInt8} {bytes : List UInt8}

theorem advance_reader (f : Feed) (a : Answer) :
    (f.advance a).reader = (f.reader.step (f.answer a) f.serial).value := by
  simp only [advance]
  split
  case h_2 => split <;> rfl
  all_goals rfl

theorem advance_of_hasRoom (hreader : f.reader = .handing (b :: bytes))
    (hroom : f.serial.hasRoom = true) (a : Answer) :
    f.advance a =
      { f with
        reader := .handing bytes
        serial := { f.serial with queue := f.serial.queue ++ [b] }
        handled := f.handled ++ [⟨b, false⟩] } := by
  simp only [advance, hreader, LineReader.step, Serial.enqueue?, hroom, if_true]

theorem advance_of_full (hreader : f.reader = .handing (b :: bytes))
    (hroom : f.serial.hasRoom = false) (a : Answer) :
    f.advance a = { f with reader := .counting b bytes } := by
  simp [advance, hreader, LineReader.step, Serial.enqueue?, hroom]

theorem advance_of_counting (hreader : f.reader = .counting b bytes) (a : Answer) :
    f.advance a =
      { f with
        reader := .handing bytes
        serial := { f.serial with dropped := f.serial.dropped + 1 }
        handled := f.handled ++ [⟨b, true⟩] } := by
  simp only [advance, hreader, LineReader.step]

end

/-! ## What is kept -/

/-- The last read found the end of the input, or it failed. -/
def Ended (reads : List LineRead) (input : List UInt8) : Prop :=
  reads.getLast? = some (.ok []) ∧ input = [] ∨ ∃ e, reads.getLast? = some (.error e)

/-- Nothing is lost on the way from the input to the terminal but the bytes that were refused, and
these are counted. -/
structure Sound (content : List UInt8) (f : Feed) : Prop where
  ordered : f.taken ++ f.serial.queue = accepted f.handled
  processed : f.handled.map Handled.byte ++ f.reader.inHand ++ f.input = content
  counted : f.serial.dropped = UInt32.ofNat (refusals f.handled)
  bounded : f.serial.queue.length < queueStorage
  attached : f.serial.attached = f.reader.isAttached
  ended : f.reader.hasEnded = true → Ended f.reads f.input

theorem accepted_concat (hs : List Handled) (b : UInt8) (refused : Bool) :
    accepted (hs ++ [⟨b, refused⟩]) = accepted hs ++ if refused then [] else [b] := by
  cases refused <;> simp [accepted]

theorem refusals_concat (hs : List Handled) (b : UInt8) (refused : Bool) :
    refusals (hs ++ [⟨b, refused⟩]) = refusals hs + if refused then 1 else 0 := by
  cases refused <;> simp [refusals]

theorem start_sound (content : List UInt8) : Sound content { input := content } where
  ordered := rfl
  processed := rfl
  counted := rfl
  bounded := Nat.zero_lt_succ _
  attached := rfl
  ended := nofun

/-! ## One move -/

section

variable {content : List UInt8} {f : Feed}

/-- A read takes a piece off the input, and finds the end only where nothing is left. -/
theorem Sound.read (h : Sound content f) (hreader : f.reader = .reading) (a : Answer) :
    Sound content (f.advance a) := by
  obtain ⟨serial, reader, input, reads, handled, taken⟩ := f
  obtain ⟨ordered, processed, counted, bounded, attached, ended⟩ := h
  dsimp only at hreader
  subst hreader
  cases a with
  | error message =>
    exact ⟨ordered, processed, counted, bounded, attached,
      fun _ => Or.inr ⟨message, List.getLast?_concat⟩⟩
  | bytes n =>
    cases input with
    | nil =>
      exact ⟨ordered, processed, counted, bounded, attached,
        fun _ => Or.inl ⟨List.getLast?_concat, rfl⟩⟩
    | cons b input =>
      have hparts : handled.map Handled.byte ++ (b :: input.take n) ++ input.drop n = content := by
        simpa [LineReader.inHand] using processed
      exact ⟨ordered, hparts, counted, bounded, attached, nofun⟩

/-- The queue takes a byte where it has room.  A byte that it refuses stays in hand until it is
counted. -/
theorem Sound.hand {b : UInt8} {bytes : List UInt8} (h : Sound content f)
    (hreader : f.reader = .handing (b :: bytes)) (a : Answer) : Sound content (f.advance a) := by
  have hprocessed := h.processed
  have hattached := h.attached
  rw [hreader] at hprocessed hattached
  cases hroom : f.serial.hasRoom with
  | true =>
    rw [advance_of_hasRoom hreader hroom]
    exact {
      ordered := by rw [accepted_concat, ← h.ordered]; exact (List.append_assoc ..).symm
      processed := by simpa [LineReader.inHand] using hprocessed
      counted := by rw [refusals_concat]; exact h.counted
      bounded := by simpa [Serial.hasRoom] using hroom
      attached := hattached
      ended := nofun }
  | false =>
    rw [advance_of_full hreader hroom]
    exact { h with processed := hprocessed, attached := hattached, ended := nofun }

theorem Sound.count {b : UInt8} {bytes : List UInt8} (h : Sound content f)
    (hreader : f.reader = .counting b bytes) (a : Answer) : Sound content (f.advance a) := by
  have hprocessed := h.processed
  have hattached := h.attached
  rw [hreader] at hprocessed hattached
  rw [advance_of_counting hreader]
  exact {
    ordered := by rw [accepted_concat, ← h.ordered]; exact (List.append_nil _).symm
    processed := by simpa [LineReader.inHand] using hprocessed
    counted := by rw [refusals_concat, h.counted, UInt32.ofNat_add]; rfl
    bounded := h.bounded
    attached := hattached
    ended := nofun }

/-- A step that moves no byte, where the reader may note whether a host is attached. -/
theorem Sound.note (h : Sound content f) (next : LineReader) (attached : Bool)
    (hattached : attached = next.isAttached) (hhand : next.inHand = f.reader.inHand)
    (hended : next.hasEnded = true → f.reader.hasEnded = true) :
    Sound content { f with reader := next, serial := { f.serial with attached } } where
  ordered := h.ordered
  processed := by simpa only [hhand] using h.processed
  counted := h.counted
  bounded := h.bounded
  attached := hattached
  ended := h.ended ∘ hended

theorem advance_sound (h : Sound content f) (a : Answer) : Sound content (f.advance a) := by
  obtain ⟨serial, reader, input, reads, handled, taken⟩ := f
  cases reader with
  | attaching => exact h.note .reading true rfl rfl nofun
  | reading => exact h.read rfl a
  | handing bytes =>
    cases bytes with
    | nil => exact h.note .reading serial.attached h.attached rfl nofun
    | cons b bytes => exact h.hand rfl a
  | counting b bytes => exact h.count rfl a
  | closing => exact h.note .stopped false rfl rfl id
  | failing e => exact h.note .stopped false rfl rfl id
  | stopped => exact h.note .stopped serial.attached h.attached rfl id

/-- The terminal takes the oldest byte off the queue, and nothing else changes. -/
theorem take_sound (h : Sound content f) : Sound content f.take := by
  obtain ⟨⟨queue, host, dropped⟩, reader, input, reads, handled, taken⟩ := f
  obtain ⟨ordered, processed, counted, bounded, attached, ended⟩ := h
  cases queue with
  | nil =>
    exact ⟨by simpa [take, Serial.readByte] using ordered, processed, counted, bounded, attached,
      ended⟩
  | cons b queue =>
    exact ⟨by simpa [take, Serial.readByte] using ordered, processed, counted,
      Nat.lt_of_succ_lt bounded, attached, ended⟩

theorem move_sound (h : Sound content f) (m : Move) : Sound content (f.move m) := by
  cases m with
  | reader a => exact advance_sound h a
  | terminal => exact take_sound h

/-! ## A whole run -/

theorem run_sound (h : Sound content f) (moves : List Move) : Sound content (f.run moves) := by
  induction moves generalizing f with
  | nil => exact h
  | cons m moves ih => exact ih (move_sound h m)

end

/-! ## What the terminal gets -/

theorem run_reader_ne_attaching {f : Feed} (h : f.reader ≠ .attaching) (moves : List Move) :
    (f.run moves).reader ≠ .attaching := by
  induction moves generalizing f with
  | nil => exact h
  | cons m moves ih =>
    cases m with
    | reader a =>
      refine ih ?_
      rw [move, advance_reader]
      exact LineReader.step_value_ne_attaching _ _ _
    | terminal => exact ih h

theorem run_replicate_terminal (f : Feed) (n : Nat) :
    (f.run (List.replicate n .terminal)).taken = f.taken ++ f.serial.queue.take n := by
  induction n generalizing f with
  | zero => simp [run]
  | succ n ih =>
    have hstep : f.run (List.replicate (n + 1) .terminal) =
        f.take.run (List.replicate n .terminal) := rfl
    rw [hstep, ih]
    cases hqueue : f.serial.queue <;> simp [take, Serial.readByte, hqueue]

/-- The bytes that the terminal took and those that wait are the bytes that the reader handled less
the refused ones.  These were refused where 1023 bytes waited, and they are counted.  A host that
was noted goes away only when the input has ended or a read has failed, and the terminal gets what
waits at any time. -/
theorem delivered_in_order (content : List UInt8) (moves : List Move) :
    let f := ({ input := content } : Feed).run moves
    f.taken ++ f.serial.queue = accepted f.handled ∧
      f.handled.map Handled.byte ++ f.reader.inHand ++ f.input = content ∧
      (∀ b bytes, f.reader = .handing (b :: bytes) →
        ∀ a, (f.advance a).reader = .counting b bytes ↔ f.serial.queue.length = 1023) ∧
      f.serial.dropped = UInt32.ofNat (refusals f.handled) ∧
      (f.serial.attached = true → ∀ later, (f.run later).serial.attached = false →
        Ended (f.run later).reads (f.run later).input) ∧
      ∀ n, (f.run (List.replicate n .terminal)).taken = f.taken ++ f.serial.queue.take n := by
  intro f
  have h : Sound content f := run_sound (start_sound content) moves
  refine ⟨h.ordered, h.processed, ?refused, h.counted, ?gone, run_replicate_terminal f⟩
  case refused =>
    intro b bytes hreader a
    rw [← Serial.hasRoom_eq_false_iff h.bounded]
    cases hroom : f.serial.hasRoom with
    | true =>
      rw [advance_of_hasRoom hreader hroom]
      exact iff_of_false nofun nofun
    | false =>
      rw [advance_of_full hreader hroom]
      exact iff_of_true rfl rfl
  case gone =>
    intro hattached later hgone
    have hlater : Sound content (f.run later) := run_sound h later
    refine hlater.ended (LineReader.hasEnded_of_not_isAttached ?_ ?_)
    · exact hlater.attached.symm.trans hgone
    · refine run_reader_ne_attaching (fun hreader => ?_) later
      rw [h.attached, hreader] at hattached
      cases hattached

/-- The reader goes on.  A read gives as much as the reader takes at once. -/
def Move.onward : Move :=
  .reader (.bytes ⟨63, by decide⟩)

/-- The reader has put two of three bytes into the queue, and the terminal has taken the first. -/
def halfway : List Move :=
  [.onward, .onward, .onward, .terminal, .onward]

/-- The last byte goes into the queue, and the reader finds the end of the input. -/
def parting : List Move :=
  [.onward, .onward, .onward, .onward]

theorem delivered_in_order_halfway :
    let f := ({ input := [0x6F, 0x6B, 0x0D] } : Feed).run halfway
    (f.taken = [0x6F] ∧ f.serial.queue = [0x6B] ∧ f.reader = .handing [0x0D]) ∧
      (∀ a, (f.advance a).reader = .counting 0x0D [] ↔ f.serial.queue.length = 1023) ∧
      (f.serial.attached = true ∧ (f.run parting).serial.attached = false) ∧
      Ended (f.run parting).reads (f.run parting).input := by
  obtain ⟨-, -, hrefused, -, hgone, -⟩ := delivered_in_order [0x6F, 0x6B, 0x0D] halfway
  exact ⟨⟨rfl, rfl, rfl⟩, hrefused 0x0D [] rfl, ⟨rfl, rfl⟩, hgone rfl parting rfl⟩

/-! ## A line that nobody reads -/

/-- The line after the bytes have arrived one after the other. -/
def received (handled : List Handled) (attached : Bool) : Serial :=
  { (handled.map Handled.byte).foldl Serial.receive {} with attached }

theorem received_concat (hs : List Handled) (b : UInt8) (refused attached : Bool) :
    received (hs ++ [⟨b, refused⟩]) attached = (received hs attached).receive b := by
  rw [received, received, Serial.receive_attached, List.map_append, List.foldl_append]
  rfl

/-- The terminal has taken nothing. -/
structure Unread (f : Feed) : Prop where
  serial_eq : f.serial = received f.handled f.reader.isAttached
  full : ∀ b bytes, f.reader = .counting b bytes → f.serial.hasRoom = false

theorem start_unread (content : List UInt8) : Unread { input := content } where
  serial_eq := rfl
  full := nofun

theorem advance_unread {f : Feed} (h : Unread f) (a : Answer) : Unread (f.advance a) := by
  obtain ⟨serial, reader, input, reads, handled, taken⟩ := f
  obtain ⟨hserial, hfull⟩ := h
  dsimp only at hserial hfull
  cases reader with
  | handing bytes =>
    cases bytes with
    | nil => exact ⟨hserial, nofun⟩
    | cons b bytes =>
      cases hroom : serial.hasRoom with
      | true =>
        rw [advance_of_hasRoom rfl hroom, ← Serial.receive_of_hasRoom hroom]
        exact ⟨by rw [received_concat, hserial]; rfl, nofun⟩
      | false =>
        rw [advance_of_full rfl hroom]
        exact ⟨hserial, fun _ _ _ => hroom⟩
  | counting b bytes =>
    rw [advance_of_counting rfl, ← Serial.receive_of_full (hfull b bytes rfl)]
    exact ⟨by rw [received_concat, hserial]; rfl, nofun⟩
  | reading =>
    rcases a with n | message
    · cases input with
      | nil => exact ⟨hserial, nofun⟩
      | cons b input => exact ⟨hserial, nofun⟩
    · exact ⟨hserial, nofun⟩
  | stopped => exact ⟨hserial, nofun⟩
  | attaching | closing | failing _ => exact ⟨by rw [hserial]; rfl, nofun⟩

theorem run_unread {f : Feed} (h : Unread f) (answers : List Answer) :
    Unread (f.run (answers.map .reader)) := by
  induction answers generalizing f with
  | nil => exact h
  | cons a answers ih => exact ih (advance_unread h a)

/-- With no moves of the terminal the reader does what `Serial.receive` does with its bytes. -/
theorem serial_of_unread (content : List UInt8) (answers : List Answer) :
    let f := ({ input := content } : Feed).run (answers.map .reader)
    f.serial =
      { queue := (f.handled.map Handled.byte).take 1023
        attached := f.reader.isAttached
        dropped := UInt32.ofNat (f.handled.length - 1023) } := by
  intro f
  have h : Unread f := run_unread (start_unread content) answers
  rw [h.serial_eq, received, Serial.foldl_receive, List.length_map]

end Feed

end FanBoard
