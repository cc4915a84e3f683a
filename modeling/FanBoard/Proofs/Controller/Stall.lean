import FanBoard.Proofs.Controller.Terminal
import FanBoard.Proofs.Lockout.Waiting
import Mathlib.Tactic.SplitIfs

/-!
# How long the terminal keeps the controller

A trial of the lockout waits for the worker.  One pump of the terminal carries out every trial that
arrived, so the waits add up.  Here the worker never comes to its safe point.

A trial whose number the worker answered last is let in at once.  For a worker that has never
answered this is the trial after `UInt32.size - 1` others.

* `Controller.trials` counts the trials in a pump, from the pending line and the queue alone.
* `pump_trials` follows the clock through a pump, trial by trial.
* `consoleTime_bounds` bounds the time of the console task on both sides, and on the slowest clock it
  takes the longest time (`consoleTime_slowest`).
* `consoleTime_below_watchdog_iff`: the console task stays below the watchdog on every clock exactly
  when the longest time of its trials does.
-/

namespace FanBoard

variable {β : Type}

namespace Controller

/-! ## Counting trials -/

/-- The trials that get to look for the worker when the terminal is pumped.  While the lockout is
requested already, none does. -/
def trials (queue : β → List UInt8) (c : Controller β) : Nat :=
  if c.shared.lockout.requested then 0
  else trialsIn (c.editor.handedOut ((queue c.board).take pumpLimit))

/-! ## A pump trial by trial -/

section Pump

variable {w : Wiring β} {c₀ : Controller β} {clockAt : Nat → Clock → Prop}

/-- Where trials leave the clock, `clockAt n` after `n` of them.  All of them wait, except for the one
after `before` others, which is let in. -/
structure Paced (timeout : UInt32) (before : Nat) (clockAt : Nat → Clock → Prop) : Prop where
  waits : ∀ n clock words, n ≠ before → clockAt n clock → words.victim = true →
    words.requested = false → words.parkAck ≠ words.requestSeq + 1 →
    ∃ clock', Lockout.acquire Lockout.idle timeout words clock =
        ⟨.refused .timeout, { words with requestSeq := words.requestSeq + 1 }, clock'⟩ ∧
      clockAt (n + 1) clock'
  answered : ∀ clock, clockAt before clock → clockAt (before + 1) clock.read.2

/-- After a number of trials the settings are as they were, the words have moved on by that number of
requests, and the clock stands where they leave it. -/
structure AfterTrials (clockAt : Nat → Clock → Prop) (c₀ c : Controller β) (n : Nat) : Prop where
  settings : c.settings = c₀.settings
  lockout : c₀.shared.lockout.Moved n c.shared.lockout
  clock : clockAt n c.shared.clock

theorem AfterTrials.still {c c' : Controller β} {n : Nat} (h : AfterTrials clockAt c₀ c n)
    (hstill : c.Still c') : AfterTrials clockAt c₀ c' n where
  settings := hstill.settings.trans h.settings
  lockout := by rw [hstill.lockout]; exact h.lockout
  clock := by rw [hstill.clock]; exact h.clock

/-- One more trial. -/
theorem AfterTrials.trial {c : Controller β} {n : Nat} {raw : List UInt8}
    (h : AfterTrials clockAt c₀ c n) (hidle : w.peer = Lockout.idle)
    (hpaced : Paced c₀.settings.lockoutTimeout c₀.shared.lockout.untilAnswered clockAt)
    (hvictim : c₀.shared.lockout.victim = true) (hfree : c₀.shared.lockout.requested = false)
    (hn : n < UInt32.size) (hraw : isTrial raw = true) :
    AfterTrials clockAt c₀ (c.dispatch w raw) (n + 1) := by
  have hvictim' : c.shared.lockout.victim = true := h.lockout.victim.trans hvictim
  have hfree' : c.shared.lockout.requested = false := h.lockout.requested.trans hfree
  have hturn := h.lockout.answered_iff hn
  by_cases hnow : n = c₀.shared.lockout.untilAnswered
  · -- the worker answered this number before, so the trial is let in
    have hacquire : Lockout.acquire w.peer c.settings.lockoutTimeout c.shared.lockout
        c.shared.clock =
          ⟨.held, { c.shared.lockout with
            requested := true
            requestSeq := c.shared.lockout.requestSeq + 1
            rounds := c.shared.lockout.rounds + 1 }, c.shared.clock.read.2⟩ := by
      rw [hidle]
      exact Lockout.acquire_answered hvictim' hfree' (hturn.mpr hnow)
    obtain ⟨hsettings, hclock, hlockout⟩ := c.dispatch_trial w hraw hacquire
    have hreleased : (c.dispatch w raw).shared.lockout =
        { c.shared.lockout with
          requestSeq := c.shared.lockout.requestSeq + 1
          rounds := c.shared.lockout.rounds + 1 } := by
      rw [hlockout, if_pos rfl, Lockout.Words.release, ← hfree']
    have hclockAt := h.clock
    rw [hnow] at hclockAt
    exact
      { settings := hsettings.trans h.settings
        lockout := by rw [hreleased]; exact h.lockout.next _
        clock := by rw [hclock, hnow]; exact hpaced.answered _ hclockAt }
  · obtain ⟨clock', hacquire, hclock'⟩ := hpaced.waits n c.shared.clock c.shared.lockout hnow
      h.clock hvictim' hfree' fun heq => hnow (hturn.mp heq)
    rw [← h.settings, ← hidle] at hacquire
    obtain ⟨hsettings, hclock, hlockout⟩ := c.dispatch_trial w hraw hacquire
    rw [if_neg (by decide)] at hlockout
    exact
      { settings := hsettings.trans h.settings
        lockout := by rw [hlockout]; exact h.lockout.next _
        clock := by rw [hclock]; exact hclock' }

/-- The controller stands where the trials handed out so far leave it, as long as there are not more of
them than numbers. -/
def FollowsTrials (clockAt : Nat → Clock → Prop) (c₀ : Controller β)
    (x : Watched (Controller β)) : Prop :=
  trialsIn x.dispatched ≤ UInt32.size →
    AfterTrials clockAt c₀ x.world (trialsIn x.dispatched)

theorem followsTrials_perform (hidle : w.peer = Lockout.idle)
    (hpaced : Paced c₀.settings.lockoutTimeout c₀.shared.lockout.untilAnswered clockAt)
    (hvictim : c₀.shared.lockout.victim = true) (hfree : c₀.shared.lockout.requested = false)
    (x : Watched (Controller β)) (event : Event) (h : FollowsTrials clockAt c₀ x) :
    FollowsTrials clockAt c₀ ((wire w).watched.perform x event) := by
  cases event with
  | write bytes =>
    simp only [FollowsTrials, Wire.watched, Event.dispatched, List.append_nil] at h ⊢
    exact fun hnumbers => (h hnumbers).still (x.world.perform_write_still w bytes)
  | note line =>
    simp only [FollowsTrials, Wire.watched, Event.dispatched, List.append_nil] at h ⊢
    exact fun hnumbers => (h hnumbers).still (x.world.perform_note_still w line)
  | dispatch raw =>
    simp only [FollowsTrials, Wire.watched, wire, perform, Event.dispatched, trialsIn_append] at h ⊢
    cases hraw : isTrial raw with
    | true =>
      rw [show trialsIn [raw] = 1 by simp [trialsIn, hraw]]
      exact fun hnumbers =>
        (h (Nat.le_of_lt hnumbers)).trial hidle hpaced hvictim hfree hnumbers hraw
    | false =>
      rw [show trialsIn [raw] = 0 by simp [trialsIn, hraw], Nat.add_zero]
      exact fun hnumbers => (h hnumbers).still (x.world.dispatch_other_still w hraw)

theorem trials_le (queue : β → List UInt8) (c : Controller β) : c.trials queue ≤ mostTrials := by
  unfold trials
  split
  · exact Nat.zero_le _
  · exact c.editor.trialsIn_handedOut_le _

/-- A pump follows the clock trial by trial. -/
theorem pump_trials {queue : β → List UInt8} (hqueue : w.board.Queues queue)
    (hidle : w.peer = Lockout.idle)
    (hpaced : Paced c₀.settings.lockoutTimeout c₀.shared.lockout.untilAnswered clockAt)
    (hvictim : c₀.shared.lockout.victim = true) (hfree : c₀.shared.lockout.requested = false)
    (hclock : clockAt 0 c₀.shared.clock) :
    AfterTrials clockAt c₀ (c₀.pumpTerminal w) (c₀.trials queue) := by
  have hstart : FollowsTrials clockAt c₀ { world := c₀ } := fun _ =>
    { settings := rfl
      lockout := ⟨c₀.shared.lockout.rounds, by simp [trialsIn]⟩
      clock := hclock }
  have hread : ∀ x, FollowsTrials clockAt c₀ x →
      FollowsTrials clockAt c₀ ((wire w).watched.readByte x).2 :=
    fun x hx hnumbers => (hx hnumbers).still ⟨rfl, rfl, rfl⟩
  have hfollows := Wire.pump_keeps hread
    (fun x event hx => followsTrials_perform hidle hpaced hvictim hfree x event hx) c₀.editor hstart
  obtain ⟨_, _, _, hdispatched⟩ :=
    (wire_queues hqueue).pumpUpTo_takes pumpLimit 0 c₀.editor { world := c₀ }
  have htrials : trialsIn ((wire w).watched.pump c₀.editor { world := c₀ }).2.2.dispatched =
      c₀.trials queue := by
    rw [trials, hfree, if_neg Bool.false_ne_true, Wire.pump, hdispatched, List.nil_append]
  have hnumbers : c₀.trials queue ≤ UInt32.size :=
    Nat.le_trans (trials_le queue c₀) (by decide)
  rw [FollowsTrials, htrials] at hfollows
  refine (hfollows hnumbers).still ?_
  rw [pumpTerminal, (wire w).pump_watched c₀.editor { world := c₀ }]
  exact ⟨rfl, rfl, rfl⟩

/-- While the lockout is requested already, a pump leaves the clock alone. -/
theorem pump_busy (hidle : w.peer = Lockout.idle) (hbusy : c₀.shared.lockout.requested = true) :
    c₀.Still (c₀.pumpTerminal w) := by
  have hpump : c₀.Still ((wire w).pump c₀.editor c₀).2.2 := by
    refine Wire.pump_keeps (P := c₀.Still) (fun c hc => hc.trans ⟨rfl, rfl, rfl⟩)
      (fun c event hc => hc.trans ?_) c₀.editor (Still.refl c₀)
    cases event with
    | write bytes => exact c.perform_write_still w bytes
    | note line => exact c.perform_note_still w line
    | dispatch raw =>
      simp only [wire, perform]
      cases hraw : isTrial raw with
      | true =>
        have hacquire : Lockout.acquire w.peer c.settings.lockoutTimeout c.shared.lockout
            c.shared.clock = ⟨.refused .busy, c.shared.lockout, c.shared.clock⟩ := by
          rw [hidle]
          apply Lockout.acquire_busy
          show c.shared.lockout.requested = true
          rw [hc.lockout, hbusy]
        obtain ⟨hsettings, hclock, hlockout⟩ := c.dispatch_trial w hraw hacquire
        rw [if_neg (by decide)] at hlockout
        exact ⟨hsettings, hclock, hlockout⟩
      | false => exact c.dispatch_other_still w hraw
  exact hpump.trans ⟨rfl, rfl, rfl⟩

end Pump

/-! ## The time of the console task -/

/-- The controller on another clock. -/
def onClock (c : Controller β) (clock : Clock) : Controller β :=
  { c with shared := { c.shared with clock } }

/-- How far the console task moves a clock on. -/
def consoleTime (w : Wiring β) (tick : Tick) (c : Controller β) (clock : Clock) : Nat :=
  ((c.onClock clock).runTask w .console tick).shared.clock.now - clock.now

/-- The controller on another clock when the console task pumps the terminal. -/
def atConsole (tick : Tick) (c : Controller β) (clock : Clock) : Controller β :=
  { c.onClock clock with metrics := c.metrics.observe tick }

theorem runTask_console (w : Wiring β) (tick : Tick) (c : Controller β) (clock : Clock) :
    (c.onClock clock).runTask w .console tick = (c.atConsole tick clock).pumpTerminal w := rfl

section Time

variable {w : Wiring β} {queue : β → List UInt8} {c : Controller β}

/-- After the console task the clock stands where the trials leave it. -/
theorem console_clockAt {clockAt : Nat → Clock → Prop} (hqueue : w.board.Queues queue)
    (hidle : w.peer = Lockout.idle) (hvictim : c.shared.lockout.victim = true)
    (hpaced : Paced c.settings.lockoutTimeout c.shared.lockout.untilAnswered clockAt) (tick : Tick)
    (clock : Clock) (hclock : clockAt 0 clock) :
    clockAt (c.trials queue) ((c.onClock clock).runTask w .console tick).shared.clock := by
  rw [runTask_console]
  cases hrequested : c.shared.lockout.requested with
  | true =>
    have hpump : (c.atConsole tick clock).Still ((c.atConsole tick clock).pumpTerminal w) :=
      pump_busy hidle hrequested
    rw [trials, hrequested, if_pos rfl, hpump.clock]
    exact hclock
  | false =>
    have hpump : AfterTrials clockAt (c.atConsole tick clock)
        ((c.atConsole tick clock).pumpTerminal w) (c.trials queue) :=
      pump_trials hqueue hidle hpaced hvictim hrequested hclock
    exact hpump.clock

/-- Where `n` trials leave a ticking clock. -/
def Within (timeout : UInt32) (before : Nat) (clock : Clock) (n : Nat) (clock' : Clock) : Prop :=
  clock'.reading = clock.reading ∧
    clock.now + Lockout.total (Lockout.Caller.budget timeout + 1) 1 before n ≤ clock'.now ∧
    clock'.now ≤ clock.now + Lockout.total (Lockout.longestWait timeout) 1000 before n

theorem within_paced {timeout : UInt32} (hpos : timeout ≠ 0) (before : Nat) {clock : Clock}
    (hclock : clock.Ticking) : Paced timeout before (Within timeout before clock) := by
  have hbudget : 0 < Lockout.Caller.budget timeout := by
    have hne : timeout.toNat ≠ 0 := fun heq => hpos (UInt32.toNat_inj.mp heq)
    rw [Lockout.Caller.budget]
    omega
  have hticks : ∀ clock' : Clock, clock'.reading = clock.reading → clock'.Ticking := by
    intro clock' hreading
    exact ⟨by rw [hreading]; exact hclock.later, by rw [hreading]; exact hclock.soon⟩
  constructor
  · rintro n clock' words hne ⟨hreading, hlow, hhigh⟩ hvictim hfree hanswer
    obtain ⟨reads, hacquire, hmin, hmax⟩ :=
      Lockout.acquire_waits (hticks clock' hreading) hvictim hfree hanswer hbudget
    refine ⟨{ clock' with reads }, hacquire, hreading, ?_, ?_⟩
    · rw [Lockout.total_succ hne, ← Nat.add_assoc]
      exact Nat.le_trans (Nat.add_le_add_right hlow _) hmin
    · have hlast : clock'.reading reads ≤ clock'.now + Lockout.longestWait timeout := by
        rw [Lockout.longestWait, ← Nat.add_assoc]
        exact hmax
      rw [Lockout.total_succ hne, ← Nat.add_assoc]
      exact Nat.le_trans hlast (Nat.add_le_add_right hhigh _)
  · rintro clock' ⟨hreading, hlow, hhigh⟩
    have hticking := hticks clock' hreading
    have hlater : clock'.now < clock'.read.2.now := hticking.later clock'.reads
    have hsoon : clock'.read.2.now ≤ clock'.now + 1000 := hticking.soon clock'.reads
    refine ⟨hreading, ?_, ?_⟩
    · rw [Lockout.total_succ_self, ← Nat.add_assoc]
      exact Nat.le_trans (Nat.add_le_add_right hlow 1) hlater
    · rw [Lockout.total_succ_self, ← Nat.add_assoc]
      exact Nat.le_trans hsoon (Nat.add_le_add_right hhigh 1000)

theorem slowest_paced (timeout : UInt32) (before : Nat) :
    Paced timeout before fun n clock => clock = Clock.slowestAfter timeout before n := by
  constructor
  · rintro n _ words hne rfl hvictim hfree hanswer
    refine ⟨_, Lockout.acquire_longest hvictim hfree hanswer
      (fun i hpos hi => Clock.slowestAfter_reading timeout before hne hpos hi), ?_⟩
    simp only [Clock.slowestAfter, Lockout.total_succ hne]
  · rintro _ rfl
    simp only [Clock.slowestAfter, Clock.read, Lockout.total_succ_self]

/-- The longest time that the trials in a pump take. -/
def longestTrials (queue : β → List UInt8) (c : Controller β) : Nat :=
  Lockout.total (Lockout.longestWait c.settings.lockoutTimeout) 1000
    c.shared.lockout.untilAnswered (c.trials queue)

/-- The console task takes at least the budget and one microsecond for every trial that waits, and at
most the longest time. -/
theorem consoleTime_bounds (hqueue : w.board.Queues queue) (hidle : w.peer = Lockout.idle)
    (hvictim : c.shared.lockout.victim = true) (hpos : c.settings.lockoutTimeout ≠ 0)
    (tick : Tick) {clock : Clock} (hclock : clock.Ticking) :
    Lockout.total (Lockout.Caller.budget c.settings.lockoutTimeout + 1) 1
        c.shared.lockout.untilAnswered (c.trials queue) ≤ c.consoleTime w tick clock ∧
      c.consoleTime w tick clock ≤ c.longestTrials queue := by
  have hstart : Within c.settings.lockoutTimeout c.shared.lockout.untilAnswered clock 0 clock := by
    simp [Within, Lockout.total_zero]
  obtain ⟨_, hlow, hhigh⟩ := console_clockAt hqueue hidle hvictim
    (within_paced hpos c.shared.lockout.untilAnswered hclock) tick clock hstart
  rw [consoleTime, longestTrials]
  omega

/-- On the slowest clock the trials take the longest time. -/
theorem consoleTime_slowest (hqueue : w.board.Queues queue) (hidle : w.peer = Lockout.idle)
    (hvictim : c.shared.lockout.victim = true) (tick : Tick) :
    c.consoleTime w tick
        (Clock.slowest c.settings.lockoutTimeout c.shared.lockout.untilAnswered) =
      c.longestTrials queue := by
  have hend := console_clockAt hqueue hidle hvictim
    (slowest_paced c.settings.lockoutTimeout c.shared.lockout.untilAnswered) tick
    (Clock.slowest c.settings.lockoutTimeout c.shared.lockout.untilAnswered)
    (by simp [Clock.slowestAfter, Lockout.total_zero, Clock.slowest])
  have hzero := Clock.slowestAfter_now c.settings.lockoutTimeout c.shared.lockout.untilAnswered 0
  rw [Lockout.total_zero] at hzero
  have hnow : (Clock.slowest c.settings.lockoutTimeout c.shared.lockout.untilAnswered).now = 0 := by
    rw [← hzero, Clock.slowestAfter, Lockout.total_zero]
    rfl
  rw [consoleTime, hend, Clock.slowestAfter_now, hnow, Nat.sub_zero, longestTrials]

/-- Settings without a defect let a trial wait. -/
theorem lockoutTimeout_ne_zero {s : Settings} (h : s.defect? = none) : s.lockoutTimeout ≠ 0 := by
  intro hzero
  simp only [Settings.defect?, hzero, true_or, if_true] at h
  split_ifs at h

/-- The budget of the watchdog in microseconds. -/
def watchdogBudget (s : Settings) : Nat :=
  s.watchdogTimeout.toNat * 1000

/-- The worker never comes to its safe point.  The console task stays below the watchdog on every
ticking clock exactly when the longest time of the trials does. -/
theorem consoleTime_below_watchdog_iff (hqueue : w.board.Queues queue)
    (hidle : w.peer = Lockout.idle) (hvalid : c.settings.defect? = none)
    (hvictim : c.shared.lockout.victim = true) (tick : Tick) :
    (∀ clock : Clock, clock.Ticking → c.consoleTime w tick clock < watchdogBudget c.settings) ↔
      c.longestTrials queue < watchdogBudget c.settings := by
  constructor
  · intro hbelow
    rw [← consoleTime_slowest hqueue hidle hvictim tick]
    exact hbelow _ (Clock.slowest_ticking _ _)
  · intro hbelow clock hclock
    obtain ⟨_, hhigh⟩ := consoleTime_bounds hqueue hidle hvictim
      (lockoutTimeout_ne_zero hvalid) tick hclock
    exact Nat.lt_of_le_of_lt hhigh hbelow

end Time

/-! ## On the bench -/

/-- A clock that moves on by a millisecond with every read. -/
def steadyClock : Clock where
  reading n := 1000 * n

theorem steadyClock_ticking : steadyClock.Ticking :=
  ⟨fun n => by simp only [steadyClock]; omega, fun n => by simp only [steadyClock]; omega⟩

/-- A bench whose worker does nothing. -/
def wedgedBench (curve : Curve) : Wiring ProbeBoard where
  board := ProbeBoard.board
  curve
  peer := Lockout.idle

/-- A controller with a worker that has never answered, and trials that wait at the terminal. -/
def flooded (s : Settings) (n : Nat) : Controller ProbeBoard :=
  start { received := flood n } s { clock := steadyClock, lockout := { victim := true } }

/-- The same, where a trial was typed before but for its end. -/
def floodedTyped (s : Settings) (n : Nat) : Controller ProbeBoard :=
  { flooded s n with
    editor := { pending := trial.toArray }
    board := { received := 0x0D :: flood n } }

theorem flooded_trials (s : Settings) {n : Nat} (h : 12 * n ≤ pumpLimit) :
    (flooded s n).trials ProbeBoard.received = n := by
  have hfree : (flooded s n).shared.lockout.requested = false := rfl
  rw [trials, hfree, if_neg Bool.false_ne_true]
  exact trialsIn_flood s.localEcho h

theorem floodedTyped_trials (s : Settings) {n : Nat} (h : 12 * n < pumpLimit) :
    (floodedTyped s n).trials ProbeBoard.received = n + 1 := by
  have hfree : (floodedTyped s n).shared.lockout.requested = false := rfl
  rw [trials, hfree, if_neg Bool.false_ne_true]
  exact trialsIn_typed_flood h

/-- A worker that has never answered lets all trials wait. -/
theorem flooded_total (s : Settings) (n m wait quick : Nat) (h : m < UInt32.size) :
    Lockout.total wait quick (flooded s n).shared.lockout.untilAnswered m = m * wait := by
  have hnever : (flooded s n).shared.lockout.untilAnswered = UInt32.size - 1 := rfl
  rw [hnever, Lockout.total, if_pos (Nat.le_sub_one_of_lt h)]

/-- With the default settings 78 trials in a pump are safe. -/
theorem consoleTime_below_watchdog_78 :
    ProbeBoard.board.Queues ProbeBoard.received ∧ Settings.defect? {} = none ∧
      (flooded {} 78).shared.lockout.victim = true ∧
      ∀ clock : Clock, clock.Ticking →
        (flooded {} 78).consoleTime (wedgedBench Curve.transparent) ⟨0, 1, 0⟩ clock < 8000000 := by
  have hvalid : Settings.defect? {} = none := by decide
  have htrials := flooded_trials {} (n := 78) (by decide)
  refine ⟨ProbeBoard.board_queues, hvalid, rfl, ?_⟩
  refine (consoleTime_below_watchdog_iff (w := wedgedBench Curve.transparent)
    (c := flooded {} 78) ProbeBoard.board_queues rfl hvalid rfl ⟨0, 1, 0⟩).mpr ?_
  rw [longestTrials, htrials, flooded_total _ _ _ _ _ (by decide)]
  decide

/-- With the default settings 80 trials, which are 960 bytes, reach the watchdog on a clock that moves
on by a millisecond with every read. -/
theorem flooded_reaches_watchdog :
    Settings.defect? {} = none ∧ steadyClock.Ticking ∧
      (flooded {} 80).shared.lockout.victim = true ∧
      watchdogBudget {} ≤
        (flooded {} 80).consoleTime (wedgedBench Curve.transparent) ⟨0, 1, 0⟩ steadyClock := by
  obtain ⟨hlow, _⟩ := consoleTime_bounds (w := wedgedBench Curve.transparent)
    (c := flooded {} 80) ProbeBoard.board_queues rfl rfl (by decide) ⟨0, 1, 0⟩ steadyClock_ticking
  rw [flooded_trials {} (by decide), flooded_total _ _ _ _ _ (by decide)] at hlow
  exact ⟨by decide, steadyClock_ticking, rfl, Nat.le_trans (by decide) hlow⟩

/-- Settings are safe from every flood exactly when the greatest number of trials in one pump is. -/
theorem every_flood_below_watchdog_iff (curve : Curve) {s : Settings} (hvalid : s.defect? = none)
    (tick : Tick) :
    (∀ (c : Controller ProbeBoard) (clock : Clock), c.settings = s →
        c.shared.lockout.victim = true → clock.Ticking →
        c.consoleTime (wedgedBench curve) tick clock < watchdogBudget s) ↔
      mostTrials * Lockout.longestWait s.lockoutTimeout < watchdogBudget s := by
  constructor
  · intro hbelow
    have htrials := floodedTyped_trials s (n := pumpLimit / 12) (by decide)
    have hslowest := consoleTime_slowest (w := wedgedBench curve)
      (c := floodedTyped s (pumpLimit / 12)) ProbeBoard.board_queues rfl rfl tick
    have htotal := flooded_total s (pumpLimit / 12) mostTrials
      (Lockout.longestWait s.lockoutTimeout) 1000 (by decide)
    have hlongest : (floodedTyped s (pumpLimit / 12)).longestTrials ProbeBoard.received =
        mostTrials * Lockout.longestWait s.lockoutTimeout := by
      rw [← htotal, longestTrials, htrials]
      rfl
    rw [← hlongest, ← hslowest]
    exact hbelow _ _ rfl rfl (Clock.slowest_ticking _ _)
  · rintro hbelow c clock rfl hvictim hclock
    have hquick : 1000 ≤ Lockout.longestWait c.settings.lockoutTimeout := by
      rw [Lockout.longestWait]
      omega
    obtain ⟨_, hhigh⟩ := consoleTime_bounds (w := wedgedBench curve) ProbeBoard.board_queues rfl
      hvictim (lockoutTimeout_ne_zero hvalid) tick hclock
    calc c.consoleTime (wedgedBench curve) tick clock
        ≤ c.longestTrials ProbeBoard.received := hhigh
      _ ≤ c.trials ProbeBoard.received * Lockout.longestWait c.settings.lockoutTimeout :=
          Lockout.total_le hquick
      _ ≤ mostTrials * Lockout.longestWait c.settings.lockoutTimeout :=
          Nat.mul_le_mul_right _ (trials_le _ c)
      _ < watchdogBudget c.settings := hbelow

end Controller

end FanBoard
