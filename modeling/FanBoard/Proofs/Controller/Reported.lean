import FanBoard.Proofs.Controller.Parts
import FanBoard.Proofs.Terminal.Reference
import FanBoard.Proofs.Timetable.Course

/-!
# What the controller reports about its ticks

The timetable counts its ticks and keeps the longest time between two of them.  The controller has
figures of its own for the same, and its terminal task reports these.  They are taken over whenever a
task runs, so they agree with the timetable from the first task of a tick on.

* `longestGap` is the longest time between two ticks in a row, where a time that goes back counts as
  none.
* `Course.counts_succ`: what the timetable has counted.
* `runTask_ticks`: a task takes over what it is told about the tick, and touches it no more.
* `Wire.attended` keeps each line that is handed out with the state that serves it.
* `figures_agree`: after every tick, and at every line that the terminal task serves, the figures are
  those of the ticks so far.
-/

namespace FanBoard

open Relation (ReflTransGen)

variable {β ρ ω : Type}

/-! ## The ticks of the timetable -/

/-- The longest time between two ticks in a row, up to tick `k`. -/
def longestGap (time : Nat → Nat) (k : Nat) : Nat :=
  ((List.range k).map fun j => time (j + 1) - time j).foldl max 0

theorem longestGap_succ (time : Nat → Nat) (k : Nat) :
    longestGap time (k + 1) = max (longestGap time k) (time (k + 1) - time k) := by
  rw [longestGap, List.range_succ, List.map_append, List.foldl_append]
  rfl

theorem Timetable.addAll_counts (t : Timetable) (plan : List (Task × Cadence)) :
    (t.addAll plan).state.lastTick = t.lastTick ∧ (t.addAll plan).state.maxLoop = t.maxLoop ∧
      (t.addAll plan).state.iterations = t.iterations := by
  induction plan generalizing t with
  | nil => exact ⟨rfl, rfl, rfl⟩
  | cons p plan ih =>
    obtain ⟨hlast, hmax, hcount⟩ := ih (t.add p.1 p.2).state
    rw [addAll, hlast, hmax, hcount, add]
    split <;> exact ⟨rfl, rfl, rfl⟩

namespace Course

variable (c : Course ρ)

/-- What the timetable has counted after tick `k`. -/
theorem counts_succ (k : Nat) :
    (c.before (k + 1)).1.lastTick = some (c.time k) ∧
      (c.before (k + 1)).1.maxLoop = longestGap c.time k ∧
      (c.before (k + 1)).1.iterations = k + 1 := by
  induction k with
  | zero =>
    obtain ⟨hlast, hmax, hcount⟩ := Timetable.addAll_counts {} c.asked
    refine ⟨rfl, ?_, ?_⟩
    · show max (c.before 0).1.maxLoop ((c.before 0).1.sinceLast (c.time 0)) = 0
      rw [before, Timetable.sinceLast, hlast, hmax]
      rfl
    · show (c.before 0).1.iterations + 1 = 1
      rw [before, hcount]
  | succ k ih =>
    obtain ⟨hlast, hmax, hcount⟩ := ih
    refine ⟨rfl, ?_, ?_⟩
    · show max (c.before (k + 1)).1.maxLoop ((c.before (k + 1)).1.sinceLast (c.time (k + 1))) = _
      rw [hmax, Timetable.sinceLast, hlast, longestGap_succ]
    · show (c.before (k + 1)).1.iterations + 1 = _
      rw [hcount]

/-- What the tasks of tick `k` are told. -/
theorem tick_eq (k : Nat) : c.tick k = ⟨c.time k, k + 1, longestGap c.time k⟩ := by
  obtain ⟨_, hmax, hcount⟩ := c.counts_succ k
  have htick : c.tick k =
      ⟨c.time k, (c.before (k + 1)).1.iterations, (c.before (k + 1)).1.maxLoop⟩ := rfl
  rw [htick, hmax, hcount]

end Course

/-! ## What the figures know of the ticks -/

namespace LoopMetrics

/-- What the figures know of the ticks. -/
def ticks (m : LoopMetrics) : Option Nat × Nat × Nat × Nat :=
  (m.boot, m.now, m.iterations, m.maxLoop)

/-- The figures after tick `k`. -/
structure Reported (time : Nat → Nat) (k : Nat) (m : LoopMetrics) : Prop where
  iterations : m.iterations = k + 1
  maxLoop : m.maxLoop = longestGap time k
  uptime : m.uptime = (time k - time 0) / 1000000

theorem reported_of_ticks {time : Nat → Nat} {k : Nat} {m : LoopMetrics}
    (h : m.ticks = (some (time 0), time k, k + 1, longestGap time k)) : m.Reported time k := by
  obtain ⟨hboot, hnow, hiterations, hmax⟩ :
      m.boot = some (time 0) ∧ m.now = time k ∧ m.iterations = k + 1 ∧
        m.maxLoop = longestGap time k := by simpa [ticks] using h
  exact ⟨hiterations, hmax, by rw [uptime, hboot, hnow]; rfl⟩

end LoopMetrics

/-! ## The lines of a pump -/

/-- A state of a wire and the lines handed out, each with the state that serves it. -/
structure Attended (ω : Type) where
  world : ω
  served : List (ω × List UInt8) := []

/-- The wire with the lines kept. -/
def Wire.attended (wire : Wire ω) : Wire (Attended ω) where
  readByte x :=
    let read := wire.readByte x.world
    (read.1, { x with world := read.2 })
  perform x event :=
    { world := wire.perform x.world event
      served := x.served ++ (Event.dispatched [event]).map fun raw => (x.world, raw) }

/-- Keeping the lines changes nothing that a pump does. -/
theorem Wire.pump_attended (wire : Wire ω) (e : LineEditor) (x : Attended ω) :
    wire.pump e x.world =
      let pumped := wire.attended.pump e x
      (pumped.1, pumped.2.1, pumped.2.2.world) :=
  pump_hom (f := Attended.world) (fun _ => rfl) (fun _ _ => rfl) e x

/-- What reading and events keep holds of the state whenever a line is served. -/
theorem Wire.attended_keeps {wire : Wire ω} {P : ω → Prop} (hread : ∀ w, P w → P (wire.readByte w).2)
    (hperform : ∀ w event, P w → P (wire.perform w event)) (e : LineEditor) {w : ω} (h : P w) :
    ∀ p ∈ (wire.attended.pump e { world := w }).2.2.served, P p.1 := by
  have hpump : P (wire.attended.pump e { world := w }).2.2.world ∧
      ∀ p ∈ (wire.attended.pump e { world := w }).2.2.served, P p.1 := by
    refine pump_keeps (P := fun x : Attended ω => P x.world ∧ ∀ p ∈ x.served, P p.1) ?_ ?_ e
      ⟨h, nofun⟩
    · exact fun x hx => ⟨hread x.world hx.1, hx.2⟩
    · refine fun x event hx => ⟨hperform x.world event hx.1, ?_⟩
      refine List.forall_mem_append.mpr ⟨hx.2, fun p hp => ?_⟩
      obtain ⟨raw, _, rfl⟩ := List.mem_map.mp hp
      exact hx.1
  exact hpump.2

namespace Controller

/-! ## The figures during a tick -/

theorem aside_ticks : Aside fun c : Controller β => c.metrics.ticks where
  after _ _ _ := rfl
  signals _ _ := rfl
  ledOn _ _ := rfl
  failure c f := by cases f <;> rfl
  write _ := rfl

theorem terminalPart_metrics {w : Wiring β} {c c' : Controller β} (h : TerminalPart w c c') :
    c'.metrics = c.metrics := by
  cases h <;> rfl

theorem terminal_metrics {w : Wiring β} {c c' : Controller β}
    (h : ReflTransGen (TerminalPart w) c c') : c'.metrics = c.metrics := by
  induction h with
  | refl => rfl
  | tail _ hpart ih => exact (terminalPart_metrics hpart).trans ih

/-- A task takes over what it is told about the tick. -/
theorem runTask_ticks (w : Wiring β) (task : Task) (tick : Tick) (c : Controller β) :
    (c.runTask w task tick).metrics.ticks = (c.metrics.observe tick).ticks := by
  by_cases htask : task = .console
  · subst htask
    exact congrArg LoopMetrics.ticks (terminal_metrics (terminal_parts w _))
  · exact aside_ticks.perTask w _ htask

/-- The controller on the standard timetable.  Between the ticks anything may happen to it, except to
its figures. -/
def course (w : Wiring β) (i : Intervals) (time : Nat → Nat)
    (change : Nat → Controller β → Controller β) (first : Controller β) : Course (Controller β) where
  asked := Timetable.standardPlan i
  runner := runner w
  time := time
  outside k c := { change k c with metrics := c.metrics }
  start := first

/-- The place of the terminal task. -/
def consolePlace : Nat := 7

/-- The controller when its terminal task is to run in a tick of a course. -/
def consoleStart (c : Course (Controller β)) (k : Nat) : Controller β :=
  let turn := c.turn consolePlace k
  { turn with metrics := turn.metrics.observe (c.tick k) }

/-- The lines that the terminal task hands out, each with the controller that serves it. -/
def servedLines (w : Wiring β) (c : Controller β) : List (Controller β × List UInt8) :=
  ((wire w).attended.pump c.editor { world := c }).2.2.served

section Course

variable {w : Wiring β} {i : Intervals} {time : Nat → Nat}
  {change : Nat → Controller β → Controller β} {first : Controller β} {c : Course (Controller β)}
  (hc : c = course w i time change first)

include hc

theorem course_table : c.table = Timetable.standardPlan i := by
  rw [hc, Course.table_eq]
  rfl

/-- At a turn of a tick the controller knows the first tick as it knew it before. -/
theorem turn_boot (n k : Nat) :
    (c.turn n k).metrics.boot.getD (time k) = (c.before k).2.metrics.boot.getD (time k) := by
  subst hc
  refine Course.turn_keeps _ (P := fun r : Controller β => r.metrics.boot.getD (time k) =
    ((course w i time change first).before k).2.metrics.boot.getD (time k))
      rfl (fun _ _ hr => hr) fun p _ r hr => ?_
  have hticks := runTask_ticks w p.1 ((course w i time change first).tick k) r
  have hboot : (r.runTask w p.1 ((course w i time change first).tick k)).metrics.boot =
      some (r.metrics.boot.getD (time k)) := congrArg Prod.fst hticks
  show (r.runTask w p.1 _).metrics.boot.getD (time k) = _
  rw [hboot, Option.getD_some, hr]

/-- What the figures know when a task runs in tick `k`. -/
theorem observed_ticks (n k : Nat) :
    ((c.turn n k).metrics.observe (c.tick k)).ticks =
      (some ((c.before k).2.metrics.boot.getD (time k)), time k, k + 1, longestGap time k) := by
  have htime : c.time = time := by rw [hc]; rfl
  rw [← turn_boot hc n k, c.tick_eq k, htime]
  rfl

/-- A tick ends with the watchdog task. -/
theorem before_ticks (k : Nat) :
    (c.before (k + 1)).2.metrics.ticks =
      (some ((c.before k).2.metrics.boot.getD (time k)), time k, k + 1, longestGap time k) := by
  have hlast : c.table[8]? = some (.watchdog, .everyTick) := by
    rw [course_table hc]
    rfl
  have hlength : c.table.length = 8 + 1 := by
    rw [course_table hc]
    rfl
  have hrunner : c.runner = runner w := by rw [hc]; rfl
  rw [c.before_succ_of_last hlength hlast k, ← observed_ticks hc 8 k, hrunner]
  exact runTask_ticks w .watchdog (c.tick k) (c.turn 8 k)

/-- The controller remembers the first tick. -/
theorem before_boot (hfirst : first.metrics.boot = none) (k : Nat) :
    (c.before k).2.metrics.boot.getD (time k) = time 0 := by
  induction k with
  | zero =>
    subst hc
    show first.metrics.boot.getD (time 0) = time 0
    rw [hfirst, Option.getD_none]
  | succ k ih =>
    have hboot : (c.before (k + 1)).2.metrics.boot = _ := congrArg Prod.fst (before_ticks hc k)
    rw [hboot, ih, Option.getD_some]

/-- The terminal task runs once in every tick. -/
theorem turnCalls_console (k : Nat) : c.turnCalls consolePlace k = [⟨.console, c.tick k⟩] := by
  have hplace : c.table[consolePlace]? = some (.console, .everyTick) := by
    rw [course_table hc]
    rfl
  obtain ⟨s, hs, htask, hcadence⟩ := Course.exists_slot hplace k
  have hdue : s.isDue c.runner (c.time k) (c.turn consolePlace k) = true := by
    rw [Slot.isDue, hcadence]
  rw [Course.turnCalls_eq hs, if_pos hdue, htask]

end Course

/-- The figures stay as they are while lines are served. -/
theorem servedLines_metrics (w : Wiring β) (c : Controller β) :
    ∀ p ∈ c.servedLines w, p.1.metrics = c.metrics :=
  Wire.attended_keeps (P := fun c' : Controller β => c'.metrics = c.metrics) (fun _ h => h)
    (fun c' event h => (terminal_metrics (perform_parts w c' event)).trans h) c.editor rfl

/-! ## The result -/

/-- The answer to a question for the figures is one line with them. -/
theorem process_status (w : Wiring β) (c : Controller β) {line : String}
    (h : Command.parse? line = some .status) :
    (c.commands.process w.peer c.context line).2.1 =
      [(c.metrics.report c.shared.slots c.shared.lockout.rounds).line] := by
  rw [Commands.process, h]
  rfl

/-- For any times, also such that go back, the figures after tick `k` are the number of ticks, the longest
time between two ticks in a row, and the whole seconds from the first tick to the last.  They are
those of the timetable, and they are the same when the terminal task of the tick begins and whenever
it serves a line, so an answer with the figures has these. -/
theorem figures_agree (w : Wiring β) (i : Intervals) (time : Nat → Nat)
    (change : Nat → Controller β → Controller β) (board : β) (settings : Settings) (shared : Shared)
    (k : Nat) :
    let c := course w i time change (start board settings shared)
    let console := consoleStart c k
    (c.before (k + 1)).2.metrics.Reported time k ∧
      (c.before (k + 1)).1.iterations = k + 1 ∧ (c.before (k + 1)).1.maxLoop = longestGap time k ∧
      c.turnCalls consolePlace k = [⟨.console, c.tick k⟩] ∧
      c.runner.run .console (c.tick k) (c.turn consolePlace k) = console.pumpTerminal w ∧
      console.metrics.Reported time k ∧
      ∀ p ∈ console.servedLines w, p.1.metrics.Reported time k ∧
        (Command.parse? (Utf8.decodeLossy p.2) = some .status →
          ∃ r : Report,
            (p.1.commands.process w.peer p.1.context (Utf8.decodeLossy p.2)).2.1 = [r.line] ∧
              r.iterations = k + 1 ∧ r.maxLoop = longestGap time k ∧
                r.uptime = (time k - time 0) / 1000000) := by
  intro c console
  have hboot := before_boot (c := c) rfl rfl k
  have hticks := before_ticks (c := c) rfl k
  have hobserved := observed_ticks (c := c) rfl consolePlace k
  rw [hboot] at hticks hobserved
  have hreported : console.metrics.Reported time k := LoopMetrics.reported_of_ticks hobserved
  obtain ⟨_, hmax, hcount⟩ := c.counts_succ k
  refine ⟨LoopMetrics.reported_of_ticks hticks, hcount, hmax, turnCalls_console rfl k, rfl,
    hreported, ?_⟩
  intro p hp
  have hserved : p.1.metrics.Reported time k := by
    rw [servedLines_metrics w console p hp]
    exact hreported
  exact ⟨hserved, fun hstatus =>
    ⟨_, process_status w p.1 hstatus, hserved.iterations, hserved.maxLoop, hserved.uptime⟩⟩

end Controller

end FanBoard
