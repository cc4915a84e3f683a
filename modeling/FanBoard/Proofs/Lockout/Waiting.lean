import FanBoard.Lockout.Caller
import Mathlib.Data.Nat.Find
import Mathlib.Tactic.Ring

/-!
# Waiting for a worker that never answers

A caller that waits for a worker reads the clock until its budget is used up.

* `Clock.Ticking` is a clock that moves on by 1 to 1000 microseconds whenever it is read, and at no
  other time.
* `acquire_refused`: if the worker does not answer, the caller gives up at the first look after its
  budget, and only the number of the request is left changed.
* `acquire_answered`: if the number of the request is the one that the worker last answered, the
  caller is let in at its first look.
* `acquire_waits`: under a ticking clock a wait takes at least the budget and one microsecond, and at
  most the budget and 1999.
* `Clock.slowest` is a ticking clock on which every wait takes that long (`acquire_longest`,
  `Clock.slowestAfter_reading`).
-/

namespace FanBoard

/-! ## Clocks that move on when they are read -/

/-- The clock moves on by 1 to 1000 microseconds with every read. -/
structure Clock.Ticking (c : Clock) : Prop where
  later : ∀ n, c.reading n < c.reading (n + 1)
  soon : ∀ n, c.reading (n + 1) ≤ c.reading n + 1000

namespace Clock.Ticking

variable {c : Clock}

/-- The number of reads is a lower bound of the time that they take. -/
theorem add_le (h : c.Ticking) (n m : Nat) : c.reading n + m ≤ c.reading (n + m) := by
  induction m with
  | zero => exact Nat.le_refl _
  | succ m ih =>
    have hlater := h.later (n + m)
    rw [show n + (m + 1) = n + m + 1 by omega]
    omega

/-- At a clock that ticks a budget is used up after some read, and not before it. -/
theorem exists_deadline (h : c.Ticking) (start budget first : Nat)
    (hfirst : c.reading start ≤ c.reading first) :
    ∃ k, k ≤ budget ∧ (∀ j < k, c.reading (first + j) - c.reading start < budget) ∧
      budget ≤ c.reading (first + k) - c.reading start := by
  have hexists : ∃ k, budget ≤ c.reading (first + k) - c.reading start :=
    ⟨budget, by have := h.add_le first budget; omega⟩
  refine ⟨Nat.find hexists, Nat.find_min' hexists ?_, fun j hj => ?_, Nat.find_spec hexists⟩
  · have := h.add_le first budget
    omega
  · have := Nat.find_min hexists hj
    omega

end Clock.Ticking

namespace Lockout

/-- The other core does nothing. -/
def idle : Nat → Words → Words :=
  fun _ w => w

/-! ## One wait -/

section Wait

variable {peer : Nat → Words → Words} {caller : Caller} {timeout seq : UInt32} {start n fuel : Nat}
  {words : Words} {clock : Clock}

theorem run_of_verdict {verdict : Verdict} (h : caller.verdict? = some verdict) :
    Caller.run peer fuel n caller words clock = ⟨verdict, words, clock⟩ := by
  cases fuel with
  | zero => rw [Caller.run, h, Option.getD_some]
  | succ fuel => rw [Caller.run, h]

/-- One step of a caller that has not ended. -/
theorem run_succ (h : caller.verdict? = none) :
    Caller.run peer (fuel + 1) n caller words clock =
      Caller.run peer fuel (n + 1) (caller.step clock.now (peer n words)).1
        (caller.step clock.now (peer n words)).2
        (if caller.readsClock then clock.read.2 else clock) := by
  rw [Caller.run, h]

/-- One step of a caller beside an idle core. -/
theorem run_step {caller' : Caller} {words' : Words} (h : caller.verdict? = none)
    (hstep : caller.step clock.now words = (caller', words')) :
    Caller.run idle (fuel + 1) n caller words clock =
      Caller.run idle fuel (n + 1) caller' words'
        (if caller.readsClock then clock.read.2 else clock) := by
  rw [run_succ h]
  simp only [idle, hstep]

/-- A look that fails, and the reading of the clock after it. -/
theorem run_look (hseq : words.parkAck ≠ seq) :
    Caller.run idle (fuel + 2) n (.looking timeout seq start) words clock =
      Caller.run idle fuel (n + 2)
        (if Caller.budget timeout ≤ clock.now - start then .withdrawing
          else .looking timeout seq start) words clock.read.2 := by
  have hlook : Caller.step clock.now (.looking timeout seq start) words =
      (.timing timeout seq start, words) := by
    rw [Caller.step, if_neg hseq]
  rw [run_step rfl hlook, run_step rfl rfl]
  rfl

/-- A request that is withdrawn. -/
theorem run_withdrawing :
    Caller.run idle (fuel + 1) n .withdrawing words clock =
      ⟨.refused .timeout, words.release, clock⟩ := by
  rw [run_step rfl rfl]
  exact run_of_verdict rfl

/-- The caller looks and reads the clock again and again, until a reading is late enough. -/
theorem run_looking (hseq : words.parkAck ≠ seq) (k : Nat) (hfuel : 2 * k + 3 ≤ fuel)
    (hbefore : ∀ j < k, clock.reading (clock.reads + j) - start < Caller.budget timeout)
    (hat : Caller.budget timeout ≤ clock.reading (clock.reads + k) - start) :
    Caller.run idle fuel n (.looking timeout seq start) words clock =
      ⟨.refused .timeout, words.release, { clock with reads := clock.reads + k + 1 }⟩ := by
  induction k generalizing fuel n clock with
  | zero =>
    obtain ⟨rest, rfl⟩ : ∃ rest, fuel = rest + 1 + 2 := ⟨fuel - 3, by omega⟩
    rw [run_look hseq, if_pos (show Caller.budget timeout ≤ clock.now - start from hat),
      run_withdrawing]
    rfl
  | succ k ih =>
    obtain ⟨rest, rfl⟩ : ∃ rest, fuel = rest + 2 := ⟨fuel - 2, by omega⟩
    have hearly : ¬ Caller.budget timeout ≤ clock.now - start :=
      Nat.not_le_of_lt (hbefore 0 (Nat.succ_pos k))
    have hshift : ∀ j, clock.reads + 1 + j = clock.reads + (j + 1) := by
      intro j
      omega
    have hrest : Caller.run idle rest (n + 2) (.looking timeout seq start) words clock.read.2 =
        ⟨.refused .timeout, words.release,
          { clock.read.2 with reads := clock.read.2.reads + k + 1 }⟩ :=
      ih (by omega)
        (fun j hj => by simpa [Clock.read, hshift] using hbefore (j + 1) (by omega))
        (by simpa [Clock.read, hshift] using hat)
    rw [run_look hseq, if_neg hearly, hrest]
    simp [Clock.read, hshift]

end Wait

/-! ## An acquisition -/

section Acquire

variable {timeout : UInt32} {words : Words} {clock : Clock}

/-- A request that is made while there is another one is refused at once. -/
theorem acquire_busy {peer : Nat → Words → Words} (h : (peer 0 words).requested = true) :
    acquire peer timeout words clock = ⟨.refused .busy, peer 0 words, clock⟩ := by
  have hfuel : Caller.enough = (2 * UInt64.size + 9) + 1 := rfl
  have hclaim : Caller.step clock.now (.claiming timeout) (peer 0 words) =
      (.refused .busy, peer 0 words) := by
    rw [Caller.step, if_pos h]
  rw [acquire, hfuel, run_succ rfl, hclaim]
  exact run_of_verdict rfl

/-- A request is made, the clock is read, and the caller is about to look. -/
theorem run_request (hvictim : words.victim = true) (hfree : words.requested = false)
    (fuel n : Nat) :
    Caller.run idle (fuel + 4) n (.claiming timeout) words clock =
      Caller.run idle fuel (n + 4) (.looking timeout (words.requestSeq + 1) clock.now)
        { words with requested := true, requestSeq := words.requestSeq + 1 } clock.read.2 := by
  have hclaim : Caller.step clock.now (.claiming timeout) words =
      (.numbering timeout, { words with requested := true }) := by
    rw [Caller.step, hfree, if_neg Bool.false_ne_true]
  have hseek : Caller.step clock.now (.seeking timeout (words.requestSeq + 1))
      { words with requested := true, requestSeq := words.requestSeq + 1 } =
        (.starting timeout (words.requestSeq + 1),
          { words with requested := true, requestSeq := words.requestSeq + 1 }) := by
    simp only [Caller.step, hvictim, if_true]
  rw [run_step rfl hclaim, run_step rfl rfl]
  exact (run_step rfl hseek).trans (run_step rfl rfl)

/-- If the worker does not answer, the caller gives up at the first look after its budget.  Only the
number of the request is left changed. -/
theorem acquire_refused (hvictim : words.victim = true) (hfree : words.requested = false)
    (hanswer : words.parkAck ≠ words.requestSeq + 1) (k : Nat) (hk : k ≤ UInt64.size)
    (hbefore : ∀ j < k, clock.reading (clock.reads + 1 + j) - clock.now < Caller.budget timeout)
    (hat : Caller.budget timeout ≤ clock.reading (clock.reads + 1 + k) - clock.now) :
    acquire idle timeout words clock =
      ⟨.refused .timeout, { words with requestSeq := words.requestSeq + 1 },
        { clock with reads := clock.reads + k + 2 }⟩ := by
  have hfuel : Caller.enough = (2 * UInt64.size + 6) + 4 := rfl
  have hseq : ({ words with requested := true, requestSeq := words.requestSeq + 1 } : Words).parkAck ≠
      words.requestSeq + 1 := hanswer
  have hlong : 2 * k + 3 ≤ 2 * UInt64.size + 6 := by omega
  have hlook : Caller.run idle (2 * UInt64.size + 6) 4
      (.looking timeout (words.requestSeq + 1) clock.now)
      { words with requested := true, requestSeq := words.requestSeq + 1 } clock.read.2 =
        ⟨.refused .timeout,
          { words with requested := false, requestSeq := words.requestSeq + 1 },
          { clock with reads := clock.reads + 1 + k + 1 }⟩ :=
    run_looking hseq k hlong hbefore hat
  rw [acquire, hfuel, run_request hvictim hfree, hlook, hfree]
  simp only [Acquisition.mk.injEq, true_and, Clock.mk.injEq]
  omega

theorem budget_le (timeout : UInt32) : Caller.budget timeout ≤ UInt64.size := by
  have hlt := timeout.toNat_lt
  simp only [Caller.budget, UInt64.size]
  omega

/-- Under a ticking clock a wait ends.  It takes at least the budget and one microsecond, and at most
the budget and 1999. -/
theorem acquire_waits (hclock : clock.Ticking) (hvictim : words.victim = true)
    (hfree : words.requested = false) (hanswer : words.parkAck ≠ words.requestSeq + 1)
    (hpos : 0 < Caller.budget timeout) :
    ∃ reads, acquire idle timeout words clock =
        ⟨.refused .timeout, { words with requestSeq := words.requestSeq + 1 },
          { clock with reads }⟩ ∧
      clock.now + Caller.budget timeout + 1 ≤ clock.reading reads ∧
      clock.reading reads ≤ clock.now + Caller.budget timeout + 1999 := by
  have hfirst := hclock.later clock.reads
  obtain ⟨k, hk, hbefore, hat⟩ := hclock.exists_deadline clock.reads (Caller.budget timeout)
    (clock.reads + 1) (Nat.le_of_lt hfirst)
  refine ⟨clock.reads + k + 2, acquire_refused hvictim hfree hanswer k
    (Nat.le_trans hk (budget_le timeout)) hbefore hat, ?_, ?_⟩
  · have hlast := hclock.later (clock.reads + 1 + k)
    simp only [Clock.now, show clock.reads + k + 2 = clock.reads + 1 + k + 1 by omega] at *
    omega
  · have hlast := hclock.soon (clock.reads + 1 + k)
    simp only [Clock.now, show clock.reads + k + 2 = clock.reads + 1 + k + 1 by omega] at *
    cases k with
    | zero =>
      have hsoon := hclock.soon clock.reads
      simp only [Nat.add_zero] at *
      omega
    | succ k =>
      have hprev := hbefore k (Nat.lt_succ_self k)
      have hsoon := hclock.soon (clock.reads + 1 + k)
      simp only [show clock.reads + 1 + (k + 1) = clock.reads + 1 + k + 1 by omega] at *
      omega

/-- If the worker has answered the number of the request already, the caller is let in at its first
look. -/
theorem acquire_answered (hvictim : words.victim = true) (hfree : words.requested = false)
    (hanswer : words.parkAck = words.requestSeq + 1) :
    acquire idle timeout words clock =
      ⟨.held, { words with
        requested := true
        requestSeq := words.requestSeq + 1
        rounds := words.rounds + 1 }, clock.read.2⟩ := by
  have hfuel : Caller.enough = (2 * UInt64.size + 4) + 2 + 4 := rfl
  have hlook : Caller.step clock.read.2.now
      (.looking timeout (words.requestSeq + 1) clock.now)
      { words with requested := true, requestSeq := words.requestSeq + 1 } =
        (.counting, { words with requested := true, requestSeq := words.requestSeq + 1 }) := by
    simp only [Caller.step, hanswer, if_true]
  rw [acquire, hfuel, run_request hvictim hfree, run_step rfl hlook, run_step rfl rfl]
  exact run_of_verdict rfl

/-- The longest wait in microseconds. -/
def longestWait (timeout : UInt32) : Nat :=
  Caller.budget timeout + 1999

/-- Where the clock moves on by 999 microseconds and then by 1000 with every read, the wait is the
longest. -/
theorem acquire_longest (hvictim : words.victim = true) (hfree : words.requested = false)
    (hanswer : words.parkAck ≠ words.requestSeq + 1)
    (hclock : ∀ i, 0 < i → i ≤ timeout.toNat + 2 →
      clock.reading (clock.reads + i) = clock.now + (1000 * i - 1)) :
    acquire idle timeout words clock =
      ⟨.refused .timeout, { words with requestSeq := words.requestSeq + 1 },
        { clock with reads := clock.reads + (timeout.toNat + 2) }⟩ := by
  have hsize := timeout.toNat_lt
  refine acquire_refused hvictim hfree hanswer timeout.toNat ?_ (fun j hj => ?_) ?_
  · simp only [UInt64.size]
    omega
  · rw [Nat.add_assoc, hclock (1 + j) (by omega) (by omega), Caller.budget]
    omega
  · rw [Nat.add_assoc, hclock (1 + timeout.toNat) (by omega) (by omega), Caller.budget]
    omega

end Acquire

/-! ## Many acquisitions in a row -/

/-- `n` requests later.  Only the number of the request and the number of those granted have moved
on. -/
def Words.Moved (w : Words) (n : Nat) (w' : Words) : Prop :=
  ∃ rounds, w' = { w with requestSeq := w.requestSeq + UInt32.ofNat n, rounds }

theorem Words.Moved.victim {w w' : Words} {n : Nat} (h : w.Moved n w') :
    w'.victim = w.victim := by
  obtain ⟨_, rfl⟩ := h
  rfl

theorem Words.Moved.requested {w w' : Words} {n : Nat} (h : w.Moved n w') :
    w'.requested = w.requested := by
  obtain ⟨_, rfl⟩ := h
  rfl

theorem Words.Moved.next {w w' : Words} {n : Nat} (h : w.Moved n w') (rounds : UInt32) :
    w.Moved (n + 1) { w' with requestSeq := w'.requestSeq + 1, rounds } := by
  obtain ⟨_, rfl⟩ := h
  refine ⟨rounds, ?_⟩
  simp only [UInt32.ofNat_add, UInt32.add_assoc]
  rfl

/-- How many requests come before the one whose number the worker answered last. -/
def Words.untilAnswered (w : Words) : Nat :=
  (w.parkAck - (w.requestSeq + 1)).toNat

/-- The next request has the number that the worker answered last exactly when it is its turn. -/
theorem Words.Moved.answered_iff {w w' : Words} {n : Nat} (h : w.Moved n w')
    (hn : n < UInt32.size) : w'.parkAck = w'.requestSeq + 1 ↔ n = w.untilAnswered := by
  obtain ⟨_, rfl⟩ := h
  have hturn : w.parkAck = w.requestSeq + UInt32.ofNat n + 1 ↔
      w.parkAck - (w.requestSeq + 1) = UInt32.ofNat n := by
    constructor
    · intro heq
      rw [heq]
      grind
    · intro heq
      rw [← heq]
      grind
  have hsmall : (UInt32.ofNat n).toNat = n := Nat.mod_eq_of_lt hn
  rw [hturn, ← UInt32.toNat_inj, hsmall, Words.untilAnswered]
  exact eq_comm

/-- What `n` rounds add up to where each takes `wait`, except for the round after `before` others,
which takes `quick`. -/
def total (wait quick before n : Nat) : Nat :=
  if n ≤ before then n * wait else (n - 1) * wait + quick

section Total

variable {wait quick before n : Nat}

theorem total_zero : total wait quick before 0 = 0 := by
  rw [total, if_pos (Nat.zero_le _), Nat.zero_mul]

/-- Any other round. -/
theorem total_succ (hne : n ≠ before) :
    total wait quick before (n + 1) = total wait quick before n + wait := by
  unfold total
  rcases Nat.lt_or_gt_of_ne hne with hlt | hgt
  · rw [if_pos (Nat.succ_le_of_lt hlt), if_pos (Nat.le_of_lt hlt), Nat.succ_mul]
  · obtain ⟨m, rfl⟩ : ∃ m, n = m + 1 := ⟨n - 1, by omega⟩
    rw [if_neg (by omega), if_neg (by omega), Nat.add_sub_cancel, Nat.add_sub_cancel, Nat.succ_mul]
    omega

/-- The round after `before` others. -/
theorem total_succ_self :
    total wait quick before (before + 1) = total wait quick before before + quick := by
  rw [total, if_neg (Nat.not_succ_le_self before), Nat.add_sub_cancel, total,
    if_pos (Nat.le_refl before)]

/-- A quick round saves time. -/
theorem total_le (hquick : quick ≤ wait) : total wait quick before n ≤ n * wait := by
  unfold total
  split
  · exact Nat.le_refl _
  · obtain ⟨m, rfl⟩ : ∃ m, n = m + 1 := ⟨n - 1, by omega⟩
    rw [Nat.add_sub_cancel, Nat.succ_mul]
    exact Nat.add_le_add_left hquick _

end Total

end Lockout

/-! ## The slowest clock -/

namespace Clock

/-- Readings that move on by 1000 microseconds, and by 999 with the first of every `timeout + 2`
reads. -/
def pace (timeout : UInt32) (n : Nat) : Nat :=
  1000 * n - (n + timeout.toNat + 1) / (timeout.toNat + 2)

/-- The clock that makes every wait of `timeout` milliseconds as long as it can be.  After `before`
waits there is one more read, which belongs to a caller that is let in. -/
def slowest (timeout : UInt32) (before : Nat) : Clock where
  reading n :=
    if n ≤ before * (timeout.toNat + 2) then pace timeout n else pace timeout (n - 1) + 1000

section Slowest

variable (timeout : UInt32)

/-- The readings of wait number `m`. -/
theorem pace_eq (m i : Nat) (hi : i ≤ timeout.toNat + 2) :
    pace timeout (m * (timeout.toNat + 2) + i) =
      m * Lockout.longestWait timeout + if i = 0 then 0 else 1000 * i - 1 := by
  have hdiv : (m * (timeout.toNat + 2) + i + timeout.toNat + 1) / (timeout.toNat + 2) =
      m + if i = 0 then 0 else 1 := by
    rw [show m * (timeout.toNat + 2) + i + timeout.toNat + 1 =
      m * (timeout.toNat + 2) + (i + timeout.toNat + 1) by omega, Nat.mul_comm m,
      Nat.mul_add_div (by omega)]
    congr 1
    split
    · exact Nat.div_eq_of_lt (by omega)
    · exact Nat.div_eq_of_lt_le (by omega) (by omega)
  have hproduct : m * Lockout.longestWait timeout + m = 1000 * (m * (timeout.toNat + 2)) := by
    rw [Lockout.longestWait, Lockout.Caller.budget]
    ring
  rw [pace, hdiv]
  split <;> omega

theorem pace_step (n : Nat) :
    pace timeout n < pace timeout (n + 1) ∧ pace timeout (n + 1) ≤ pace timeout n + 1000 := by
  have hsplit : n = n / (timeout.toNat + 2) * (timeout.toNat + 2) + n % (timeout.toNat + 2) :=
    (Nat.div_add_mod' n _).symm
  have hmod : n % (timeout.toNat + 2) < timeout.toNat + 2 := Nat.mod_lt _ (by omega)
  generalize n / (timeout.toNat + 2) = m at hsplit
  generalize n % (timeout.toNat + 2) = i at hsplit hmod
  rw [hsplit, Nat.add_assoc, pace_eq timeout m i (by omega), pace_eq timeout m (i + 1) (by omega)]
  generalize m * Lockout.longestWait timeout = base
  split <;> split <;> omega

variable (before : Nat)

theorem slowest_ticking : (slowest timeout before).Ticking := by
  have hstep : ∀ n, (slowest timeout before).reading n < (slowest timeout before).reading (n + 1) ∧
      (slowest timeout before).reading (n + 1) ≤ (slowest timeout before).reading n + 1000 := by
    intro n
    simp only [slowest]
    generalize before * (timeout.toNat + 2) = turn
    rcases Nat.lt_trichotomy n turn with hlt | heq | hgt
    · rw [if_pos (Nat.le_of_lt hlt), if_pos (Nat.succ_le_of_lt hlt)]
      exact pace_step timeout n
    · rw [if_pos (Nat.le_of_eq heq), if_neg (by omega), Nat.add_sub_cancel]
      omega
    · obtain ⟨m, rfl⟩ : ∃ m, n = m + 1 := ⟨n - 1, by omega⟩
      rw [if_neg (by omega), if_neg (by omega), Nat.add_sub_cancel, Nat.add_sub_cancel]
      have := pace_step timeout m
      omega
  exact ⟨fun n => (hstep n).1, fun n => (hstep n).2⟩

/-- The clock after `n` rounds. -/
def slowestAfter (n : Nat) : Clock :=
  { slowest timeout before with reads := Lockout.total (timeout.toNat + 2) 1 before n }

theorem slowestAfter_now (n : Nat) :
    (slowestAfter timeout before n).now =
      Lockout.total (Lockout.longestWait timeout) 1000 before n := by
  have hpace : ∀ m, pace timeout (m * (timeout.toNat + 2)) = m * Lockout.longestWait timeout := by
    intro m
    rw [← Nat.add_zero (m * (timeout.toNat + 2)), pace_eq timeout m 0 (Nat.zero_le _), if_pos rfl,
      Nat.add_zero]
  simp only [now, slowestAfter, slowest, Lockout.total]
  rcases Nat.lt_or_ge before n with hlt | hge
  · have hlate : before * (timeout.toNat + 2) ≤ (n - 1) * (timeout.toNat + 2) :=
      Nat.mul_le_mul_right _ (by omega)
    rw [if_neg (Nat.not_le_of_lt hlt), if_neg (by omega), if_neg (Nat.not_le_of_lt hlt),
      Nat.add_sub_cancel, hpace]
  · rw [if_pos hge, if_pos (Nat.mul_le_mul_right _ hge), if_pos hge, hpace]

/-- The readings of a round that waits. -/
theorem slowestAfter_reading {n : Nat} (hne : n ≠ before) {i : Nat} (hpos : 0 < i)
    (hi : i ≤ timeout.toNat + 2) :
    (slowestAfter timeout before n).reading ((slowestAfter timeout before n).reads + i) =
      (slowestAfter timeout before n).now + (1000 * i - 1) := by
  have hpace : ∀ m, pace timeout (m * (timeout.toNat + 2) + i) =
      m * Lockout.longestWait timeout + (1000 * i - 1) := by
    intro m
    rw [pace_eq timeout m i hi, if_neg (Nat.ne_of_gt hpos)]
  rw [slowestAfter_now]
  simp only [slowestAfter, slowest, Lockout.total]
  rcases Nat.lt_or_gt_of_ne hne with hlt | hgt
  · have hearly : (n + 1) * (timeout.toNat + 2) ≤ before * (timeout.toNat + 2) :=
      Nat.mul_le_mul_right _ hlt
    rw [Nat.succ_mul] at hearly
    rw [if_pos (Nat.le_of_lt hlt), if_pos (by omega), if_pos (Nat.le_of_lt hlt), hpace]
  · have hlate : before * (timeout.toNat + 2) ≤ (n - 1) * (timeout.toNat + 2) :=
      Nat.mul_le_mul_right _ (by omega)
    rw [if_neg (Nat.not_le_of_lt hgt), if_neg (by omega), if_neg (Nat.not_le_of_lt hgt),
      show (n - 1) * (timeout.toNat + 2) + 1 + i - 1 = (n - 1) * (timeout.toNat + 2) + i by omega,
      hpace]
    omega

end Slowest

end Clock

end FanBoard
