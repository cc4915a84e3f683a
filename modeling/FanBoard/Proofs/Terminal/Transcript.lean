import FanBoard.Proofs.Terminal.Session

/-!
# What the terminal shows

Two parties write to the terminal: the line editor echoes what it takes, and the handler answers the
lines that it is given.  The bytes arrive in one order, and this is the order of all that is shown: the
echo of a byte comes before the echo of the next one, and the answer to a line stands behind the echo of
the byte that ended it.

* `Reference.echo` is the echo of a byte, and `Reference.transcript` all that is shown of a stream.
* `Wire.heard` keeps what the handler writes for each line.
* `LineEditor.turn_events`: one byte makes the editor write its echo, and only then hand out a line.
* `Session.writes_transcript`: what was written is the transcript of the bytes taken.
-/

namespace FanBoard

variable {ω : Type}

/-! ## The transcript of a stream -/

namespace Reference

/-- The echo of a byte. -/
def echo (r : Reference) (b : UInt8) : List UInt8 :=
  if b = 0x00 ∨ b = 0xFF then []
  else if b = 0x08 ∨ b = 0x7F then LineEditor.rubOut
  else if b = 0x0D ∨ b = 0x0A then LineEditor.lineEnd
  else if r.unfinished.length + 1 = lineCapacity then b :: LineEditor.lineEnd
  else [b]

/-- The line that a byte ends, if it ends one. -/
def ended (r : Reference) (b : UInt8) : Option (List UInt8) :=
  if b = 0x00 ∨ b = 0xFF then none
  else if b = 0x08 ∨ b = 0x7F then none
  else if b = 0x0D ∨ b = 0x0A then
    if r.unfinished = [] then none else some r.unfinished
  else if r.unfinished.length + 1 = lineCapacity then some (r.unfinished ++ [b])
  else none

theorem take_lines (r : Reference) (b : UInt8) : (r.take b).lines = r.lines ++ (r.ended b).toList := by
  simp only [take, ended]
  split_ifs <;> simp

/-- What is shown of a byte: its echo, and the answer to the line that it ends.  `answer k` is the answer
to the line of number `k`. -/
def shown (echo : Bool) (answer : Nat → List UInt8) (r : Reference) (b : UInt8) : List UInt8 :=
  (if echo then r.echo b else []) ++ (if (r.ended b).isSome then answer r.lines.length else [])

/-- What is shown of a stream. -/
def transcript (echo : Bool) (answer : Nat → List UInt8) (r : Reference) : List UInt8 → List UInt8
  | [] => []
  | b :: bytes => r.shown echo answer b ++ transcript echo answer (r.take b) bytes

section Transcript

variable {echo : Bool} {answer answer' : Nat → List UInt8}

theorem transcript_concat (r : Reference) (bytes : List UInt8) (b : UInt8) :
    r.transcript echo answer (bytes ++ [b]) =
      r.transcript echo answer bytes ++ (bytes.foldl take r).shown echo answer b := by
  induction bytes generalizing r with
  | nil => simp [transcript]
  | cons b' bytes ih => simp only [List.cons_append, transcript, ih, List.append_assoc, List.foldl_cons]

theorem length_lines_le (r : Reference) (bytes : List UInt8) :
    r.lines.length ≤ (bytes.foldl take r).lines.length := by
  induction bytes generalizing r with
  | nil => exact Nat.le_refl _
  | cons b bytes ih =>
    refine Nat.le_trans ?_ (ih (r.take b))
    rw [take_lines, List.length_append]
    omega

/-- Only the answers to lines that have ended are shown. -/
theorem transcript_congr (r : Reference) (bytes : List UInt8)
    (h : ∀ k < (bytes.foldl take r).lines.length, answer k = answer' k) :
    r.transcript echo answer bytes = r.transcript echo answer' bytes := by
  induction bytes generalizing r with
  | nil => rfl
  | cons b bytes ih =>
    have hlines := length_lines_le (r.take b) bytes
    rw [take_lines, List.length_append] at hlines
    have hshown : r.shown echo answer b = r.shown echo answer' b := by
      rw [shown, shown]
      congr 1
      cases hended : r.ended b with
      | none => rfl
      | some line =>
        rw [hended, Option.toList_some, List.length_singleton] at hlines
        rw [h r.lines.length hlines]
    rw [transcript, transcript, hshown, ih (r.take b) h]

end Transcript

end Reference

/-! ## What one byte makes the editor do -/

/-- The bytes that events write to the terminal themselves. -/
def Event.written : List Event → List UInt8
  | [] => []
  | .write bytes :: events => bytes ++ written events
  | .note _ :: events => written events
  | .dispatch _ :: events => written events

theorem Event.written_append (front back : List Event) :
    written (front ++ back) = written front ++ written back := by
  induction front with
  | nil => rfl
  | cons event front ih => cases event <;> simp [written, ih]

namespace LineEditor

/-- The events of a byte that is fed and after which a full line is handed out. -/
def turn (e : LineEditor) (b : UInt8) : List Event :=
  (e.feed b).2 ++ (e.feed b).1.flush.2

@[simp] theorem written_echoed (e : LineEditor) (bytes : List UInt8) :
    Event.written (e.echoed bytes) = if e.echo then bytes else [] := by
  unfold echoed
  split <;> simp [Event.written]

theorem flush_echo (e : LineEditor) : e.flush.1.echo = e.echo := by
  unfold flush
  split <;> rfl

theorem accept_echo (e : LineEditor) (b : UInt8) : (e.accept b).1.echo = e.echo := by
  simp only [accept]
  split_ifs <;> rfl

theorem feed_echo (e : LineEditor) (b : UInt8) : (e.feed b).1.echo = e.echo :=
  (accept_echo e.flush.1 b).trans e.flush_echo

theorem feed_of_collecting {e : LineEditor} (hfull : e.full = false) (b : UInt8) :
    e.feed b = e.accept b := by
  simp [feed, flush, hfull]

/-- While no full line waits, a byte makes the editor write the echo and, after all of it, hand out the
line that the byte ends. -/
theorem turn_events {e : LineEditor} {out : List (List UInt8)} {r : Reference} (h : e.Tracks out r)
    (hfull : e.full = false) (b : UInt8) :
    ∃ front, e.turn b = front ++ (r.ended b).toList.map .dispatch ∧
      Event.dispatched front = [] ∧
      Event.written front = Event.written (e.echoed (r.echo b)) := by
  have hunfinished := h.unfinished_of_collecting hfull
  have hempty : e.pending.isEmpty = true ↔ r.unfinished = [] := by
    rw [← hunfinished, Array.toList_eq_nil_iff, Array.isEmpty_iff]
  have hsize : r.unfinished.length + 1 = (e.pending.push b).size := by
    rw [← hunfinished, Array.length_toList, Array.size_push]
  simp only [turn, feed_of_collecting hfull, accept, Reference.ended, Reference.echo, hempty, hsize]
  split_ifs with hnoise hrub hend hnone hfill
  · exact ⟨[], by simp [flush, hfull], rfl, by simp [Event.written]⟩
  · exact ⟨e.echoed rubOut, by simp [flush, hfull], by simp, rfl⟩
  · exact ⟨e.echoed lineEnd, by simp [flush, hfull], by simp, rfl⟩
  · refine ⟨e.echoed lineEnd ++ [.note (dispatchLine e.pending.toList)], ?_, ?_, ?_⟩
    · simp [flush, dispatch, hunfinished]
    · simp [Event.dispatched_append, Event.dispatched]
    · simp [Event.written_append, Event.written]
  · -- the line is full, and the flush ends it on the terminal before it is handed out
    refine ⟨e.echoed [b] ++ [.note overflowLine] ++
      (e.echoed lineEnd ++ [.note (dispatchLine (e.pending.push b).toList)]), ?_, ?_, ?_⟩
    · simp [flush, dispatch, hunfinished, echoed]
    · simp [Event.dispatched_append, Event.dispatched]
    · cases hecho : e.echo <;> simp [Event.written_append, Event.written, hecho]
  · exact ⟨e.echoed [b], by simp [flush, hfull], by simp, rfl⟩

end LineEditor

/-! ## The terminal and what the handler writes -/

/-- What the wire has written to the terminal so far.  The handler of the lines writes too, and takes
back nothing. -/
structure Wire.Transmits (wire : Wire ω) (sent : ω → List UInt8) : Prop where
  readByte : ∀ w, sent (wire.readByte w).2 = sent w
  write : ∀ w bytes, sent (wire.perform w (.write bytes)) = sent w ++ bytes
  note : ∀ w line, sent (wire.perform w (.note line)) = sent w
  dispatch : ∀ w raw, sent w <+: sent (wire.perform w (.dispatch raw))

/-- A line and what the handler wrote for it. -/
structure Answer where
  line : List UInt8
  written : List UInt8

/-- A state of a wire and the answers of the handler so far. -/
structure Heard (ω : Type) where
  world : ω
  answers : List Answer := []

/-- What the handler wrote for the line of this number. -/
def Heard.answer (x : Heard ω) (k : Nat) : List UInt8 :=
  (x.answers[k]?.map Answer.written).getD []

namespace Wire

/-- A byte and the flush behind it carry out the events of one turn. -/
theorem take_eq (wire : Wire ω) (e : LineEditor) (w : ω) (b : UInt8) :
    wire.take e w b = ((e.feed b).1.flush.1, wire.performAll w (e.turn b)) := by
  simp only [take, feed, flush, LineEditor.turn, performAll, List.foldl_append]

variable (wire : Wire ω) (sent : ω → List UInt8)

/-- The wire with the answers of the handler kept. -/
def heard : Wire (Heard ω) where
  readByte x :=
    let (b, world) := wire.readByte x.world
    (b, { x with world })
  perform x event :=
    let world := wire.perform x.world event
    match event with
    | .dispatch raw =>
      { world, answers := x.answers ++ [⟨raw, (sent world).drop (sent x.world).length⟩] }
    | .write _ | .note _ => { x with world }

variable {wire sent}

/-- Events that hand out no line write what they write themselves. -/
theorem heard_performAll (hwire : wire.Transmits sent) {events : List Event}
    (hnone : Event.dispatched events = []) (x : Heard ω) :
    sent ((wire.heard sent).performAll x events).world = sent x.world ++ Event.written events ∧
      ((wire.heard sent).performAll x events).answers = x.answers := by
  induction events generalizing x with
  | nil => simp [performAll, Event.written]
  | cons event events ih =>
    cases event with
    | write bytes =>
      obtain ⟨hsent, hanswers⟩ := ih hnone ((wire.heard sent).perform x (.write bytes))
      refine ⟨hsent.trans ?_, hanswers⟩
      simp [heard, hwire.write, Event.written]
    | note line =>
      obtain ⟨hsent, hanswers⟩ := ih hnone ((wire.heard sent).perform x (.note line))
      refine ⟨hsent.trans ?_, hanswers⟩
      simp [heard, hwire.note, Event.written]
    | dispatch raw => simp [Event.dispatched] at hnone

/-- A line that is handed out adds its answer. -/
theorem heard_dispatch (hwire : wire.Transmits sent) (raw : List UInt8) (x : Heard ω) :
    ∃ answer, sent ((wire.heard sent).perform x (.dispatch raw)).world = sent x.world ++ answer ∧
      ((wire.heard sent).perform x (.dispatch raw)).answers = x.answers ++ [⟨raw, answer⟩] := by
  obtain ⟨answer, hanswer⟩ := hwire.dispatch x.world raw
  refine ⟨answer, hanswer.symm, ?_⟩
  simp only [heard, ← hanswer, List.drop_left]

end Wire

/-- The history without the answers. -/
def Watched.unheard (x : Watched (Heard ω)) : Watched ω :=
  { x with world := x.world.world }

/-- Keeping the answers changes nothing that an event does. -/
theorem Wire.heard_perform (wire : Wire ω) (sent : ω → List UInt8) (x : Watched (Heard ω))
    (event : Event) :
    wire.watched.perform x.unheard event = ((wire.heard sent).watched.perform x event).unheard := by
  cases event <;> rfl

/-! ## Byte after byte -/

/-- What was written, behind what was there at first, is the transcript of these bytes. -/
structure Heard.Shows (sent : ω → List UInt8) (echo : Bool) (first bytes : List UInt8)
    (x : Heard ω) : Prop where
  /-- The handler answered the lines of the reference. -/
  lines : x.answers.map Answer.line = (Reference.read bytes).lines
  written : sent x.world = first ++ ({} : Reference).transcript echo x.answer bytes

section Turn

variable {wire : Wire ω} {sent : ω → List UInt8} {echo : Bool} {first bytes : List UInt8}
  {e : LineEditor} {out : List (List UInt8)} {x : Heard ω}

theorem Heard.answer_congr {y : Heard ω} (h : y.answers = x.answers) : y.answer = x.answer := by
  funext k
  rw [answer, answer, h]

theorem Heard.answer_of_added {a : Answer} {y : Heard ω} (h : y.answers = x.answers ++ [a]) :
    y.answer x.answers.length = a.written ∧ ∀ k < x.answers.length, y.answer k = x.answer k := by
  refine ⟨?_, fun k hk => ?_⟩
  · simp [answer, h]
  · rw [answer, answer, h, List.getElem?_append_left hk]

/-- A byte and the flush behind it add the echo, and then the answer to the line that the byte ends. -/
theorem Heard.Shows.turn (hwire : wire.Transmits sent) (h : x.Shows sent echo first bytes)
    (htracks : e.Tracks out (Reference.read bytes)) (hfull : e.full = false) (hecho : e.echo = echo)
    (b : UInt8) :
    ((wire.heard sent).performAll x (e.turn b)).Shows sent echo first (bytes ++ [b]) := by
  obtain ⟨front, hturn, hnone, hfront⟩ := LineEditor.turn_events htracks hfull b
  obtain ⟨hsent, hanswers⟩ := Wire.heard_performAll hwire hnone x
  rw [hfront, LineEditor.written_echoed, hecho, h.written, List.append_assoc] at hsent
  have hlines : (Reference.read (bytes ++ [b])).lines =
      (Reference.read bytes).lines ++ ((Reference.read bytes).ended b).toList := by
    rw [Reference.read_append]
    exact Reference.take_lines _ b
  have hnumber : x.answers.length = (Reference.read bytes).lines.length := by
    rw [← h.lines, List.length_map]
  cases hended : (Reference.read bytes).ended b with
  | none =>
    have hworld : (wire.heard sent).performAll x (e.turn b) = (wire.heard sent).performAll x front := by
      rw [hturn, hended, Option.toList_none, List.map_nil, List.append_nil]
    rw [hended, Option.toList_none, List.append_nil] at hlines
    rw [hworld]
    constructor
    · rw [hanswers, hlines, h.lines]
    · rw [hsent, answer_congr hanswers, Reference.transcript_concat, ← Reference.read,
        Reference.shown, hended]
      simp
  | some line =>
    have hworld : (wire.heard sent).performAll x (e.turn b) =
        (wire.heard sent).perform ((wire.heard sent).performAll x front) (.dispatch line) := by
      rw [hturn, hended, Wire.performAll, List.foldl_append]
      rfl
    obtain ⟨answer, hdispatch, hadded⟩ :=
      Wire.heard_dispatch hwire line ((wire.heard sent).performAll x front)
    rw [hanswers] at hadded
    obtain ⟨hnew, hold⟩ := answer_of_added hadded
    rw [hnumber] at hnew hold
    rw [hworld]
    constructor
    · rw [hadded, hlines, hended, List.map_append, h.lines]
      rfl
    · rw [hdispatch, hsent, Reference.transcript_concat, ← Reference.read, Reference.shown, hended,
        Reference.transcript_congr {} bytes hold, hnew]
      simp

/-- Reading adds nothing. -/
theorem Heard.Shows.readByte (hwire : wire.Transmits sent) (h : x.Shows sent echo first bytes) :
    ((wire.heard sent).readByte x).2.Shows sent echo first bytes where
  lines := h.lines
  written := (hwire.readByte x.world).trans h.written

end Turn

/-! ## Sessions -/

/-- What can be done in a session while the echo stays as it is and no full line is left to wait. -/
inductive Turn (ω : Type) where
  /-- A byte is fed by hand, and a full line handed out. -/
  | feed (b : UInt8)
  /-- The wire is pumped, and a full line handed out. -/
  | pump
  /-- The world changes. -/
  | meanwhile (change : ω → ω)

namespace Turn

/-- A change of the world writes nothing. -/
def Silent (sent : ω → List UInt8) : Turn ω → Prop
  | .feed _ | .pump => True
  | .meanwhile change => ∀ w, sent (change w) = sent w

/-- The turn where the answers are kept. -/
def heard : Turn ω → Turn (Heard ω)
  | .feed b => .feed b
  | .pump => .pump
  | .meanwhile change => .meanwhile fun x => { x with world := change x.world }

end Turn

theorem ProbeWire.wire_transmits : wire.Transmits fun p => p.sent.toList where
  readByte p := by
    rcases p with ⟨_ | ⟨b, received⟩, sent, lines, reply, journal⟩ <;> rfl
  write p bytes := by
    simp [wire, perform]
  note p line := rfl
  dispatch p raw := by
    simp [wire, perform]

namespace Session

/-- One turn. -/
def turn (wire : Wire ω) (s : Session ω) : Turn ω → Session ω
  | .feed b => (s.step wire (.feed b)).step wire .flush
  | .pump => (s.step wire .pump).step wire .flush
  | .meanwhile change => s.step wire (.meanwhile change)

/-- Turns in order. -/
def play (wire : Wire ω) (s : Session ω) (turns : List (Turn ω)) : Session ω :=
  turns.foldl (turn wire) s

/-- What the editor has, and what the terminal shows of the bytes that it took. -/
structure Shows (sent : ω → List UInt8) (echo : Bool) (first : List UInt8)
    (s : Session (Heard ω)) : Prop where
  tracked : s.Tracked
  collecting : s.editor.full = false
  echo_eq : s.editor.echo = echo
  heard : s.terminal.world.Shows sent echo first s.terminal.consumed

variable {wire : Wire ω} {sent : ω → List UInt8} {echo : Bool} {first : List UInt8}

theorem step_flush_of_collecting (wire : Wire ω) {s : Session ω} (hfull : s.editor.full = false) :
    s.step wire .flush = s := by
  simp [step, Wire.flush, LineEditor.flush, hfull, Wire.performAll]

theorem Shows.take (hwire : wire.Transmits sent) {e : LineEditor} {x : Watched (Heard ω)}
    (h : Shows sent echo first ⟨e, x⟩) (b : UInt8) :
    Shows sent echo first ⟨((wire.heard sent).watched.take e (x.take b) b).1,
      ((wire.heard sent).watched.take e (x.take b) b).2⟩ where
  tracked := Wire.flush_tracks (Wire.feed_tracks h.tracked b)
  collecting := LineEditor.flush_full _
  echo_eq := (LineEditor.flush_echo _).trans ((LineEditor.feed_echo e b).trans h.echo_eq)
  heard := by
    have hturn := h.heard.turn hwire h.tracked h.collecting h.echo_eq b
    rw [Wire.take_eq, Wire.watched_performAll]
    exact hturn

theorem Shows.read (hwire : wire.Transmits sent) {e : LineEditor} {x : Watched (Heard ω)}
    (h : Shows sent echo first ⟨e, x⟩) :
    Shows sent echo first ⟨e, { x with world := ((wire.heard sent).readByte x.world).2 }⟩ where
  tracked := h.tracked
  collecting := h.collecting
  echo_eq := h.echo_eq
  heard := h.heard.readByte hwire

theorem Shows.pump (hwire : wire.Transmits sent) {s : Session (Heard ω)}
    (h : s.Shows sent echo first) : (s.step (wire.heard sent) .pump).Shows sent echo first := by
  refine Wire.pump_carries (P := fun e x => Shows sent echo first ⟨e, x⟩) ?_ ?_ h
  · intro e x x' hread h
    have hnone : ((wire.heard sent).readByte x.world).1 = none := congrArg Prod.fst hread
    have hx := congrArg Prod.snd hread
    simp only [Wire.watched, hnone, Option.toList_none, List.append_nil] at hx
    exact hx ▸ h.read hwire
  · intro e x x' b hread h
    have hsome : ((wire.heard sent).readByte x.world).1 = some b := congrArg Prod.fst hread
    have hx := congrArg Prod.snd hread
    simp only [Wire.watched, hsome, Option.toList_some] at hx
    exact hx ▸ (h.read hwire).take hwire b

theorem Shows.turn (hwire : wire.Transmits sent) {s : Session (Heard ω)}
    (h : s.Shows sent echo first) {t : Turn ω} (ht : t.Silent sent) :
    (s.turn (wire.heard sent) t.heard).Shows sent echo first := by
  cases t with
  | feed b => exact h.take hwire b
  | pump =>
    have hpump := h.pump hwire
    rw [Turn.heard, Session.turn, step_flush_of_collecting _ hpump.collecting]
    exact hpump
  | meanwhile change =>
    exact
      { tracked := h.tracked
        collecting := h.collecting
        echo_eq := h.echo_eq
        heard :=
          { lines := h.heard.lines
            written := (ht s.terminal.world.world).trans h.heard.written } }

theorem Shows.play (hwire : wire.Transmits sent) {s : Session (Heard ω)}
    (h : s.Shows sent echo first) {turns : List (Turn ω)} (hturns : ∀ t ∈ turns, t.Silent sent) :
    (s.play (wire.heard sent) (turns.map Turn.heard)).Shows sent echo first := by
  induction turns generalizing s with
  | nil => exact h
  | cons t turns ih =>
    rw [List.forall_mem_cons] at hturns
    exact ih (h.turn hwire hturns.1) hturns.2

/-- The session without the answers. -/
def unheard (s : Session (Heard ω)) : Session ω where
  editor := s.editor
  terminal := s.terminal.unheard

/-- Keeping the answers changes nothing that a turn does. -/
theorem turn_unheard (wire : Wire ω) (sent : ω → List UInt8) (s : Session (Heard ω)) (t : Turn ω) :
    (s.turn (wire.heard sent) t.heard).unheard = s.unheard.turn wire t := by
  have hperform := Wire.performAll_hom (Wire.heard_perform wire sent)
  cases t with
  | feed b =>
    simp only [Turn.heard, turn, step, unheard, Wire.feed, Wire.flush, ← hperform]
    rfl
  | pump =>
    have hpump := Wire.pump_hom (f := Watched.unheard) (fun _ => rfl) (Wire.heard_perform wire sent)
      s.editor s.terminal
    simp only [Turn.heard, turn, step, unheard, Wire.flush, ← hperform]
    rw [hpump]
  | meanwhile change => rfl

theorem play_unheard (wire : Wire ω) (sent : ω → List UInt8) (s : Session (Heard ω))
    (turns : List (Turn ω)) :
    (s.play (wire.heard sent) (turns.map Turn.heard)).unheard = s.unheard.play wire turns := by
  rw [play, play, List.foldl_map]
  exact (List.foldl_hom unheard fun s t => (turn_unheard wire sent s t).symm).symm

/-- However the bytes arrive, what a session writes is the transcript of the bytes taken, with the
answers of the handler to the lines of the reference. -/
theorem writes_transcript (hwire : wire.Transmits sent) (echo : Bool) (world : ω)
    {turns : List (Turn ω)} (hturns : ∀ t ∈ turns, t.Silent sent) :
    let s := play (wire.heard sent) (fresh echo { world }) (turns.map Turn.heard)
    s.unheard = play wire (fresh echo world) turns ∧
      s.terminal.world.answers.map Answer.line = (Reference.read s.terminal.consumed).lines ∧
      sent s.terminal.world.world =
        sent world ++
          ({} : Reference).transcript echo s.terminal.world.answer s.terminal.consumed := by
  have hfresh : (fresh echo { world : Heard ω }).Shows sent echo (sent world) :=
    { tracked := LineEditor.tracks_fresh echo
      collecting := rfl
      echo_eq := rfl
      heard := { lines := rfl, written := (List.append_nil _).symm } }
  have hshows := hfresh.play hwire hturns
  exact ⟨play_unheard wire sent _ turns, hshows.heard.lines, hshows.heard.written⟩

/-- On the bench: a character is typed and rubbed out twice, and then a line arrives that is
answered. -/
def corrected : List (Turn ProbeWire) :=
  [.feed 0x61, .feed 0x7F, .feed 0x08,
    .meanwhile fun p => { p with received := [0x68, 0x69, 0x0D, 0x0A], reply := [0x21] }, .pump]

theorem corrected_silent : ∀ t ∈ corrected, t.Silent fun p => p.sent.toList := by
  simp [corrected, Turn.Silent]

theorem writes_transcript_corrected :
    ProbeWire.wire.Transmits (fun p => p.sent.toList) ∧
      (∀ t ∈ corrected, t.Silent fun p => p.sent.toList) ∧
      (play ProbeWire.wire (fresh true {}) corrected).terminal.world.sent.toList =
        [0x61, 0x08, 0x20, 0x08, 0x08, 0x20, 0x08, 0x68, 0x69, 0x0D, 0x0A, 0x21, 0x0D, 0x0A] := by
  obtain ⟨hplay, _, hsent⟩ :=
    writes_transcript ProbeWire.wire_transmits true {} corrected_silent
  refine ⟨ProbeWire.wire_transmits, corrected_silent, ?_⟩
  rw [← hplay]
  refine hsent.trans ?_
  decide

end Session

end FanBoard
