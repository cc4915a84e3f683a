import FanBoard.Lockout.Checkpoint
import FanBoard.Proofs.Lockout.Waiting

/-!
# How an acquisition ends

A caller that finds the lockout free makes a request and then looks at the answer of the worker again
and again.  It reads the clock before its first look and after every look that fails.

An `Attempt` is such an acquisition together with all that the other core does beside it.

* `Attempt.met` gives the words that the caller meets at each of its steps.
* `Attempt.GrantedAt` and `Attempt.RefusedAt` say, from the answers and the readings alone, at which
  look or at which reading an attempt is to end.
* `Attempt.run_of_grantedAt` and `Attempt.run_of_refusedAt` follow the caller to its end, and
  `Attempt.EndsWith.cases` says that there is no other end.
* `Attempt.ends_exactly` is the result, with what is left behind and with a bound on the looks.
* `acquire_ends` sums up what is left of the request, from any words.
-/

namespace FanBoard.Lockout

/-! ## Steps beside another core -/

section Run

variable {peer : Nat → Words → Words} {caller : Caller} {fuel n : Nat} {words : Words} {clock : Clock}

/-- An acquisition that has ended is not changed by more steps. -/
theorem run_more (hends : (Caller.run peer fuel n caller words clock).verdict ≠ .waiting)
    (extra : Nat) :
    Caller.run peer (fuel + extra) n caller words clock =
      Caller.run peer fuel n caller words clock := by
  induction fuel generalizing n caller words clock with
  | zero =>
    cases hverdict : caller.verdict? with
    | none =>
      rw [Caller.run, hverdict] at hends
      exact absurd rfl hends
    | some verdict => rw [run_of_verdict hverdict, run_of_verdict hverdict]
  | succ fuel ih =>
    cases hverdict : caller.verdict? with
    | none =>
      rw [run_succ hverdict] at hends
      rw [Nat.add_right_comm, run_succ hverdict, run_succ hverdict]
      exact ih hends
    | some verdict => rw [run_of_verdict hverdict, run_of_verdict hverdict]

theorem run_reading (peer : Nat → Words → Words) (fuel n : Nat) (caller : Caller) (words : Words)
    (clock : Clock) : (Caller.run peer fuel n caller words clock).clock.reading = clock.reading := by
  induction fuel generalizing n caller words clock with
  | zero => rfl
  | succ fuel ih =>
    cases hverdict : caller.verdict? with
    | none =>
      rw [run_succ hverdict, ih]
      split <;> rfl
    | some verdict => rw [run_of_verdict hverdict]

end Run

/-! ## The other core -/

/-- What the other core may do beside an acquisition: it answers, it parks, and it makes its worker
known.  The request and the count of the rounds are left to the caller. -/
structure ByWorker (peer : Nat → Words → Words) : Prop where
  requested : ∀ n w, (peer n w).requested = w.requested
  requestSeq : ∀ n w, (peer n w).requestSeq = w.requestSeq
  rounds : ∀ n w, (peer n w).rounds = w.rounds
  victim : ∀ n w, w.victim = true → (peer n w).victim = true

/-- A step of the worker at its safe point answers or parks, or does nothing. -/
theorem Checkpoint.step_words (c : Checkpoint) (w : Words) :
    ∃ parkAck parked, (c.step w).2 = { w with parkAck, parked } := by
  cases c with
  | parking => exact ⟨w.parkAck, true, rfl⟩
  | answering seq => exact ⟨seq, w.parked, rfl⟩
  | leaving => exact ⟨w.parkAck, false, rfl⟩
  | entering | reading | looking | passed => exact ⟨w.parkAck, w.parked, rfl⟩

theorem Checkpoint.steps_words (n : Nat) (c : Checkpoint) (w : Words) :
    ∃ parkAck parked, (Checkpoint.steps n c w).2 = { w with parkAck, parked } := by
  induction n generalizing c w with
  | zero => exact ⟨w.parkAck, w.parked, rfl⟩
  | succ n ih =>
    obtain ⟨_, _, hstep⟩ := c.step_words w
    obtain ⟨parkAck, parked, hsteps⟩ := ih (c.step w).1 (c.step w).2
    refine ⟨parkAck, parked, ?_⟩
    rw [Checkpoint.steps, hsteps, hstep]

/-- While there is no request, the worker passes its safe point and writes nothing. -/
theorem Checkpoint.step_entering_of_free {w : Words} (h : w.requested = false) :
    Checkpoint.step .entering w = (.passed false, w) := by
  rw [Checkpoint.step, h, if_neg Bool.false_ne_true]

/-- An acquisition that finds the lockout free. -/
structure Attempt where
  /-- What the other core does before each step of the caller. -/
  peer : Nat → Words → Words
  byWorker : ByWorker peer
  timeout : UInt32
  words : Words
  free : words.requested = false
  clock : Clock

namespace Attempt

/-- The words that the caller meets at its step of this number, as long as it has not ended.  Its first
two steps claim the request and give it a number, and all else is done by the other core. -/
def met (a : Attempt) : Nat → Words
  | 0 => a.peer 0 a.words
  | 1 => a.peer 1 { a.met 0 with requested := true }
  | 2 => a.peer 2 { a.met 1 with requestSeq := (a.met 1).requestSeq + 1 }
  | n + 3 => a.peer (n + 3) (a.met (n + 2))

variable (a : Attempt)

/-- The number of the request. -/
def seq : UInt32 :=
  a.words.requestSeq + 1

/-- Whether the caller finds the answer to its request at its look of this number. -/
def Answered (j : Nat) : Prop :=
  (a.met (4 + 2 * j)).parkAck = a.seq

/-- The readings of the clock: the first is the start, and the one of number `i` follows the failed look
of number `i - 1`. -/
def reading (i : Nat) : Nat :=
  a.clock.reading (a.clock.reads + i)

/-- The time from the start to a reading. -/
def waited (i : Nat) : Nat :=
  a.reading i - a.reading 0

/-- The look of this number is the first one that finds the answer, and all readings before it are
within the budget. -/
structure GrantedAt (j : Nat) : Prop where
  answered : a.Answered j
  first : ∀ k < j, ¬ a.Answered k
  inTime : ∀ i, 1 ≤ i → i ≤ j → a.waited i < Caller.budget a.timeout

/-- The attempt is not granted, and the reading of this number is the first one after a failed look that
is past the budget. -/
structure RefusedAt (i : Nat) : Prop where
  notGranted : ∀ j, ¬ a.GrantedAt j
  pos : 1 ≤ i
  late : Caller.budget a.timeout ≤ a.waited i
  first : ∀ k, 1 ≤ k → k < i → a.waited k < Caller.budget a.timeout

/-- The clock after some more reads. -/
def clockAfter (reads : Nat) : Clock :=
  { a.clock with reads := a.clock.reads + reads }

/-- The end of an attempt that is granted at the look of this number. -/
def granted (j : Nat) : Acquisition where
  verdict := .held
  words := { a.met (5 + 2 * j) with rounds := a.words.rounds + 1 }
  clock := a.clockAfter (j + 1)

/-- The end of an attempt that is refused at the reading of this number. -/
def refused (i : Nat) : Acquisition where
  verdict := .refused .timeout
  words := { a.met (4 + 2 * i) with requested := false }
  clock := a.clockAfter (i + 1)

/-- The attempt after a number of steps. -/
def after (steps : Nat) : Acquisition :=
  Caller.run a.peer steps 0 (.claiming a.timeout) a.words a.clock

/-- The attempt ends, and ends so. -/
def EndsWith (r : Acquisition) : Prop :=
  r.verdict ≠ .waiting ∧ ∃ steps, a.after steps = r

/-- The acquisition. -/
def result : Acquisition :=
  acquire a.peer a.timeout a.words a.clock

/-- The looks of an acquisition that failed.  A reading of the clock follows each of them, and one more
reading comes first. -/
def failedLooks (r : Acquisition) : Nat :=
  r.clock.reads - a.clock.reads - 1

/-! ## The words that the caller meets -/

theorem met_succ (n : Nat) : a.met (n + 3) = a.peer (n + 3) (a.met (n + 2)) := rfl

theorem met_zero_requested : (a.met 0).requested = false := by
  rw [met, a.byWorker.requested, a.free]

theorem met_rounds (n : Nat) : (a.met n).rounds = a.words.rounds := by
  induction n with
  | zero => rw [met, a.byWorker.rounds]
  | succ n ih =>
    match n with
    | 0 | 1 | _ + 2 => rw [met, a.byWorker.rounds, ih]

theorem met_victim (h : a.words.victim = true) (n : Nat) : (a.met n).victim = true := by
  induction n with
  | zero => exact a.byWorker.victim _ _ h
  | succ n ih =>
    match n with
    | 0 | 1 | _ + 2 => exact a.byWorker.victim _ _ ih

/-! ## Following the caller -/

/-- The attempt from its step of number `n + 1` on, after some reads of the clock. -/
def resume (steps n : Nat) (caller : Caller) (reads : Nat) : Acquisition :=
  Caller.run a.peer steps (n + 1) caller (a.met n) (a.clockAfter reads)

/-- The caller when it is about to look. -/
def looking : Caller :=
  .looking a.timeout a.seq (a.reading 0)

section Follow

variable {a} {steps : Nat}

/-- One step that leaves the words as it meets them. -/
theorem resume_succ {n reads : Nat} {caller caller' : Caller} (hverdict : caller.verdict? = none)
    (hstep : caller.step (a.clockAfter reads).now (a.met (n + 3)) = (caller', a.met (n + 3))) :
    a.resume (steps + 1) (n + 2) caller reads =
      a.resume steps (n + 3) caller' (if caller.readsClock then reads + 1 else reads) := by
  rw [resume, run_succ hverdict, ← a.met_succ, hstep]
  cases caller.readsClock <;> rfl

/-- The first three steps make the request and look whether there is a worker. -/
theorem after_request (steps : Nat) :
    a.after (steps + 3) =
      Caller.run a.peer steps 3
        (if (a.met 2).victim then .starting a.timeout a.seq else .counting) (a.met 2) a.clock := by
  have hclaim : Caller.step a.clock.now (.claiming a.timeout) (a.peer 0 a.words) =
      (.numbering a.timeout, { a.met 0 with requested := true }) := by
    have hfree : (a.peer 0 a.words).requested = false := a.met_zero_requested
    rw [Caller.step, hfree, if_neg Bool.false_ne_true]
    rfl
  have hseq : (a.met 1).requestSeq + 1 = a.seq := by
    rw [met, a.byWorker.requestSeq, met, a.byWorker.requestSeq, seq]
  rw [after, run_succ rfl, hclaim, run_succ rfl, ← hseq]
  exact run_succ rfl

/-- Where there is a worker, the caller reads the clock and is then about to look. -/
theorem after_start (hvictim : (a.met 2).victim = true) (steps : Nat) :
    a.after (steps + 4) = a.resume steps 3 a.looking 1 := by
  rw [after_request, if_pos hvictim, run_succ rfl, ← a.met_succ]
  rfl

/-- Where there is none, the caller is let in without reading the clock. -/
theorem after_unattended (hvictim : (a.met 2).victim = false) (steps : Nat) :
    a.after (steps + 4) = ⟨.held, { a.met 3 with rounds := a.words.rounds + 1 }, a.clock⟩ := by
  rw [after_request, if_neg (by rw [hvictim]; exact Bool.false_ne_true), run_succ rfl, ← a.met_succ,
    ← a.met_rounds 3]
  exact run_of_verdict rfl

/-- A look that finds the answer ends the attempt. -/
theorem resume_answered {j : Nat} (h : a.Answered j) :
    a.resume (steps + 2) (2 * j + 3) a.looking (j + 1) = a.granted j := by
  have hlook : Caller.step (a.clockAfter (j + 1)).now a.looking (a.met (2 * j + 1 + 3)) =
      (.counting, a.met (2 * j + 1 + 3)) := by
    rw [looking, Caller.step, if_pos (by rw [← h]; congr 2; omega)]
  rw [resume_succ rfl hlook, resume, run_succ rfl, ← a.met_succ, granted, ← a.met_rounds (5 + 2 * j),
    show 5 + 2 * j = 2 * j + 2 + 3 by omega]
  exact run_of_verdict rfl

/-- A look that fails is followed by a reading of the clock. -/
theorem resume_unanswered {j : Nat} (h : ¬ a.Answered j) :
    a.resume (steps + 2) (2 * j + 3) a.looking (j + 1) =
      a.resume steps (2 * (j + 1) + 3)
        (if Caller.budget a.timeout ≤ a.waited (j + 1) then .withdrawing else a.looking)
        (j + 1 + 1) := by
  have hlook : Caller.step (a.clockAfter (j + 1)).now a.looking (a.met (2 * j + 1 + 3)) =
      (.timing a.timeout a.seq (a.reading 0), a.met (2 * j + 1 + 3)) := by
    rw [looking, Caller.step, if_neg fun heq => h (by rw [Answered, ← heq]; congr 2; omega)]
  rw [resume_succ rfl hlook]
  exact resume_succ rfl rfl

/-- Withdrawing the request ends the attempt. -/
theorem resume_withdrawing {i : Nat} :
    a.resume (steps + 1) (2 * i + 3) .withdrawing (i + 1) = a.refused i := by
  rw [resume, run_succ rfl, ← a.met_succ, refused, show 4 + 2 * i = 2 * i + 1 + 3 by omega]
  exact run_of_verdict rfl

/-- While no look finds the answer and no reading is late, the caller goes on looking. -/
theorem resume_looking {j : Nat} (hanswer : ∀ k < j, ¬ a.Answered k)
    (htime : ∀ i, 1 ≤ i → i ≤ j → a.waited i < Caller.budget a.timeout) :
    a.resume (steps + 2 * j) 3 a.looking 1 = a.resume steps (2 * j + 3) a.looking (j + 1) := by
  induction j generalizing steps with
  | zero => rfl
  | succ j ih =>
    have hbefore : a.resume (steps + 2 + 2 * j) 3 a.looking 1 =
        a.resume (steps + 2) (2 * j + 3) a.looking (j + 1) :=
      ih (fun k hk => hanswer k (Nat.lt_succ_of_lt hk))
        (fun i hpos hi => htime i hpos (Nat.le_succ_of_le hi))
    have hearly : ¬ Caller.budget a.timeout ≤ a.waited (j + 1) :=
      Nat.not_le_of_lt (htime (j + 1) (Nat.succ_pos j) (Nat.le_refl _))
    rw [show steps + 2 * (j + 1) = steps + 2 + 2 * j by omega, hbefore,
      resume_unanswered (hanswer j (Nat.lt_succ_self j)), if_neg hearly]

end Follow

/-! ## Where an attempt ends -/

section Ends

variable {a}

/-- Before the reading at which an attempt is refused, no look finds the answer. -/
theorem RefusedAt.unanswered {i : Nat} (h : a.RefusedAt i) : ∀ k < i, ¬ a.Answered k := by
  intro k
  induction k using Nat.strong_induction_on with
  | _ k ih =>
    intro hk hanswered
    exact h.notGranted k
      { answered := hanswered
        first := fun m hm => ih m hm (Nat.lt_trans hm hk)
        inTime := fun m hpos hm => h.first m hpos (Nat.lt_of_le_of_lt hm hk) }

theorem run_of_grantedAt (hvictim : (a.met 2).victim = true) {j : Nat} (h : a.GrantedAt j)
    (steps : Nat) : a.after (steps + (2 * j + 6)) = a.granted j := by
  rw [show steps + (2 * j + 6) = steps + 2 + 2 * j + 4 by omega,
    after_start hvictim, resume_looking h.first h.inTime]
  exact resume_answered h.answered

theorem run_of_refusedAt (hvictim : (a.met 2).victim = true) {i : Nat} (h : a.RefusedAt i)
    (steps : Nat) : a.after (steps + (2 * i + 5)) = a.refused i := by
  obtain ⟨j, rfl⟩ : ∃ j, i = j + 1 := ⟨i - 1, by have := h.pos; omega⟩
  have hunanswered := h.unanswered
  rw [show steps + (2 * (j + 1) + 5) = steps + 1 + 2 + 2 * j + 4 by omega, after_start hvictim,
    resume_looking (fun k hk => hunanswered k (Nat.lt_succ_of_lt hk))
      (fun i hpos hi => h.first i hpos (Nat.lt_succ_of_le hi)),
    resume_unanswered (hunanswered j (Nat.lt_succ_self j)), if_pos h.late]
  exact resume_withdrawing

/-- An attempt that is neither granted nor refused goes on for ever. -/
theorem run_of_neither (hvictim : (a.met 2).victim = true) (hgranted : ∀ j, ¬ a.GrantedAt j)
    (hrefused : ∀ i, ¬ a.RefusedAt i) (steps : Nat) : (a.after steps).verdict = .waiting := by
  have hearly : ∀ i, 1 ≤ i → a.waited i < Caller.budget a.timeout := by
    intro i
    induction i using Nat.strong_induction_on with
    | _ i ih =>
      intro hpos
      by_contra hlate
      exact hrefused i
        { notGranted := hgranted
          pos := hpos
          late := Nat.le_of_not_lt hlate
          first := fun k hk hlt => ih k hlt hk }
  have hunanswered : ∀ j, ¬ a.Answered j := by
    intro j
    induction j using Nat.strong_induction_on with
    | _ j ih =>
      intro hanswered
      exact hgranted j
        { answered := hanswered, first := ih, inTime := fun i hpos _ => hearly i hpos }
  by_contra hends
  have hlonger := run_more hends (steps + 4)
  have hlooking : a.after (steps + (steps + 4)) = a.resume 0 (2 * steps + 3) a.looking (steps + 1) := by
    rw [show steps + (steps + 4) = 0 + 2 * steps + 4 by omega,
      after_start hvictim]
    exact resume_looking (fun k _ => hunanswered k) (fun i hpos _ => hearly i hpos)
  rw [← after, ← after, hlooking] at hlonger
  rw [← hlonger] at hends
  exact hends rfl

theorem EndsWith.unique {r r' : Acquisition} (h : a.EndsWith r) (h' : a.EndsWith r') : r = r' := by
  obtain ⟨hends, steps, rfl⟩ := h
  obtain ⟨hends', steps', rfl⟩ := h'
  calc a.after steps = a.after (steps + steps') := (run_more hends steps').symm
    _ = a.after (steps' + steps) := by rw [Nat.add_comm]
    _ = a.after steps' := run_more hends' steps

theorem GrantedAt.endsWith (hvictim : (a.met 2).victim = true) {j : Nat} (h : a.GrantedAt j) :
    a.EndsWith (a.granted j) :=
  ⟨nofun, 0 + (2 * j + 6), run_of_grantedAt hvictim h 0⟩

theorem RefusedAt.endsWith (hvictim : (a.met 2).victim = true) {i : Nat} (h : a.RefusedAt i) :
    a.EndsWith (a.refused i) :=
  ⟨nofun, 0 + (2 * i + 5), run_of_refusedAt hvictim h 0⟩

/-- There are two ways to end, and no third. -/
theorem EndsWith.cases (hvictim : (a.met 2).victim = true) {r : Acquisition} (h : a.EndsWith r) :
    (∃ j, a.GrantedAt j ∧ r = a.granted j) ∨ ∃ i, a.RefusedAt i ∧ r = a.refused i := by
  by_cases hgranted : ∃ j, a.GrantedAt j
  · obtain ⟨j, hj⟩ := hgranted
    exact Or.inl ⟨j, hj, h.unique (hj.endsWith hvictim)⟩
  · by_cases hrefused : ∃ i, a.RefusedAt i
    · obtain ⟨i, hi⟩ := hrefused
      exact Or.inr ⟨i, hi, h.unique (hi.endsWith hvictim)⟩
    · obtain ⟨hends, steps, rfl⟩ := h
      exact absurd (run_of_neither hvictim (not_exists.mp hgranted) (not_exists.mp hrefused) steps) hends

end Ends

/-! ## How long an attempt lasts -/

section Bound

variable {a}

theorem failedLooks_granted (j : Nat) : a.failedLooks (a.granted j) = j := by
  simp only [failedLooks, granted, clockAfter]
  omega

theorem failedLooks_refused (i : Nat) : a.failedLooks (a.refused i) = i := by
  simp only [failedLooks, refused, clockAfter]
  omega

/-- Where some reading is past the budget, the acquisition ends, and not later than there. -/
theorem result_endsWith (hvictim : (a.met 2).victim = true) {i : Nat} (hpos : 1 ≤ i)
    (hi : i ≤ UInt64.size + 1) (hlate : Caller.budget a.timeout ≤ a.waited i) :
    a.EndsWith a.result ∧ a.failedLooks a.result ≤ i := by
  have hlate' : ∃ k, 1 ≤ k ∧ Caller.budget a.timeout ≤ a.waited k := ⟨i, hpos, hlate⟩
  by_cases hgranted : ∃ j, a.GrantedAt j
  · obtain ⟨j, hj⟩ := hgranted
    have hbefore : j < i := by
      by_contra hle
      exact Nat.not_le_of_lt (hj.inTime i hpos (Nat.le_of_not_lt hle)) hlate
    have hresult : a.result = a.granted j := by
      rw [← run_of_grantedAt hvictim hj (Caller.enough - (2 * j + 6)), Nat.sub_add_cancel]
      · rfl
      · rw [Caller.enough]
        omega
    rw [hresult, failedLooks_granted]
    exact ⟨hj.endsWith hvictim, Nat.le_of_lt hbefore⟩
  · have hrefused : a.RefusedAt (Nat.find hlate') :=
      { notGranted := not_exists.mp hgranted
        pos := (Nat.find_spec hlate').1
        late := (Nat.find_spec hlate').2
        first := fun k hk hlt => Nat.lt_of_not_le fun hle => Nat.find_min hlate' hlt ⟨hk, hle⟩ }
    have hfirst : Nat.find hlate' ≤ i := Nat.find_min' hlate' ⟨hpos, hlate⟩
    have hresult : a.result = a.refused (Nat.find hlate') := by
      rw [← run_of_refusedAt hvictim hrefused (Caller.enough - (2 * Nat.find hlate' + 5)),
        Nat.sub_add_cancel]
      · rfl
      · rw [Caller.enough]
        omega
    rw [hresult, failedLooks_refused]
    exact ⟨hrefused.endsWith hvictim, hfirst⟩

/-- Where there is no worker, the acquisition ends with the caller let in. -/
theorem result_unattended (hvictim : (a.met 2).victim = false) :
    a.result = ⟨.held, { a.met 3 with rounds := a.words.rounds + 1 }, a.clock⟩ := by
  have henough : Caller.enough = (2 * UInt64.size + 6) + 4 := rfl
  rw [result, acquire, henough]
  exact after_unattended hvictim _

/-- On a clock that moves on with every read, a reading is at least its number after the start. -/
theorem le_waited (hclock : ∀ i, a.reading i < a.reading (i + 1)) (i : Nat) : i ≤ a.waited i :=
  Nat.le_sub_of_add_le ((strictMono_nat_of_lt_succ hclock).add_le_nat i 0)

end Bound

/-! ## The result -/

/-- How an attempt ends where there is a worker. -/
structure EndsExactly (a : Attempt) : Prop where
  /-- It is granted at a look, one more reading than failed looks after the start, exactly when that
  look is the first to find the answer and no reading before it is late. -/
  granted_iff : ∀ j, a.EndsWith (a.granted j) ↔ a.GrantedAt j
  /-- It is refused at the first late reading after a failed look, exactly when it is not granted. -/
  refused_iff : ∀ i, a.EndsWith (a.refused i) ↔ a.RefusedAt i
  /-- It ends in no other way. -/
  no_other : ∀ r, a.EndsWith r → (∃ j, r = a.granted j) ∨ ∃ i, r = a.refused i
  /-- A refusal withdraws the request and leaves the other words as the other core left them. -/
  refused_words : ∀ i, (a.refused i).words.requested = false ∧
    (a.refused i).words.rounds = a.words.rounds ∧ (a.refused i).words.victim = true ∧
    (a.refused i).words.parked = (a.met (4 + 2 * i)).parked
  /-- As long as nobody makes a request after that, the worker passes its safe point without parking. -/
  refused_passes : ∀ i (w : Words), w.requested = (a.refused i).words.requested →
    Checkpoint.step .entering w = (.passed false, w)
  /-- On a clock that moves on with every read it ends, after at most as many failed looks as there are
  microseconds in the budget, or after one. -/
  bounded : (∀ i, a.reading i < a.reading (i + 1)) →
    a.EndsWith a.result ∧ a.failedLooks a.result ≤ max 1 (Caller.budget a.timeout)

/-- An acquisition that finds the lockout free ends exactly as the answers and the readings say.  If there
is no worker when the caller looks for it, the caller is let in and has not read the clock. -/
theorem ends_exactly (a : Attempt) :
    (a.words.victim = true → a.EndsExactly) ∧
      ((a.met 2).victim = false →
        a.result = ⟨.held, { a.met 3 with rounds := a.words.rounds + 1 }, a.clock⟩) := by
  refine ⟨fun hworker => ?_, fun hvictim => ?_⟩
  · have hvictim := a.met_victim hworker 2
    refine
      { granted_iff := fun j => ⟨fun h => ?_, fun h => h.endsWith hvictim⟩
        refused_iff := fun i => ⟨fun h => ?_, fun h => h.endsWith hvictim⟩
        no_other := fun r h => ?_
        refused_words := fun i => ⟨rfl, a.met_rounds _, a.met_victim hworker _, rfl⟩
        refused_passes := fun i w hfree => ?_
        bounded := fun hclock => ?_ }
    · rcases h.cases hvictim with ⟨j', hj', heq⟩ | ⟨i, _, heq⟩
      · have hlooks := congrArg a.failedLooks heq
        rw [failedLooks_granted, failedLooks_granted] at hlooks
        rw [hlooks]
        exact hj'
      · exact absurd (congrArg Acquisition.verdict heq) nofun
    · rcases h.cases hvictim with ⟨j, _, heq⟩ | ⟨i', hi', heq⟩
      · exact absurd (congrArg Acquisition.verdict heq) nofun
      · have hlooks := congrArg a.failedLooks heq
        rw [failedLooks_refused, failedLooks_refused] at hlooks
        rw [hlooks]
        exact hi'
    · exact (h.cases hvictim).imp (fun ⟨j, _, heq⟩ => ⟨j, heq⟩) fun ⟨i, _, heq⟩ => ⟨i, heq⟩
    · exact Checkpoint.step_entering_of_free hfree
    · have hbudget := budget_le a.timeout
      have hwaited := le_waited hclock (max 1 (Caller.budget a.timeout))
      exact result_endsWith hvictim (Nat.le_max_left _ _) (by omega) (by omega)
  · exact result_unattended hvictim

/-- The steps of a worker at its safe point are what another core may do beside an acquisition. -/
theorem byWorker_steps (steps : Nat → Nat) (place : Nat → Checkpoint) :
    ByWorker fun n w => (Checkpoint.steps (steps n) (place n) w).2 := by
  constructor
  · intro n w
    obtain ⟨_, _, h⟩ := Checkpoint.steps_words (steps n) (place n) w
    rw [h]
  · intro n w
    obtain ⟨_, _, h⟩ := Checkpoint.steps_words (steps n) (place n) w
    rw [h]
  · intro n w
    obtain ⟨_, _, h⟩ := Checkpoint.steps_words (steps n) (place n) w
    rw [h]
  · intro n w hvictim
    obtain ⟨_, _, h⟩ := Checkpoint.steps_words (steps n) (place n) w
    rw [h]
    exact hvictim

/-- The worker comes to its safe point between the second look and the third.  The clock moves on by 400
microseconds with every read, and the budget is one millisecond. -/
def answeredLate : Attempt where
  peer := fun n w => (Checkpoint.steps (if n = 7 then 4 else 0) .entering w).2
  byWorker := byWorker_steps (fun n => if n = 7 then 4 else 0) fun _ => .entering
  timeout := 1
  words := { requestSeq := 6, parkAck := 6, victim := true, rounds := 4 }
  free := rfl
  clock := { reading := fun n => 400 * n }

instance (a : Attempt) (j : Nat) : Decidable (a.Answered j) :=
  inferInstanceAs (Decidable (_ = _))

/-- It is granted at its third look, before its third reading after the start would have been late. -/
theorem ends_exactly_answeredLate :
    answeredLate.words.victim = true ∧ answeredLate.GrantedAt 2 ∧
      answeredLate.EndsWith (answeredLate.granted 2) ∧
      (answeredLate.granted 2).words = ⟨true, 7, 7, true, true, 5⟩ ∧
      answeredLate.EndsWith answeredLate.result ∧
      answeredLate.failedLooks answeredLate.result ≤ 1000 := by
  have hgranted : answeredLate.GrantedAt 2 :=
    { answered := by decide
      first := by decide
      inTime := by decide }
  have hends := (ends_exactly answeredLate).1 rfl
  have hticks : ∀ i, answeredLate.reading i < answeredLate.reading (i + 1) := by
    intro i
    simp only [reading, answeredLate]
    omega
  obtain ⟨hresult, hlooks⟩ := hends.bounded hticks
  rw [show Caller.budget answeredLate.timeout = 1000 by decide] at hlooks
  exact ⟨rfl, hgranted, (hends.granted_iff 2).mpr hgranted, rfl, hresult, hlooks⟩

end Attempt

/-! ## From any words -/

/-- Some later reading, and not one too far ahead, is this long after the next one. -/
def Reaches (clock : Clock) (wait : Nat) : Prop :=
  ∃ i, 1 ≤ i ∧ i ≤ UInt64.size ∧ wait ≤ clock.reading (clock.reads + i) - clock.now

/-- A clock that moves on with every read gets past every budget. -/
theorem reaches_of_lt {clock : Clock} (hclock : ∀ n, clock.reading n < clock.reading (n + 1))
    (timeout : UInt32) : Reaches clock (Caller.budget timeout) := by
  have hbudget := budget_le timeout
  have hlater :=
    (strictMono_nat_of_lt_succ hclock).add_le_nat (max 1 (Caller.budget timeout)) clock.reads
  refine ⟨max 1 (Caller.budget timeout), Nat.le_max_left _ _,
    Nat.max_le.mpr ⟨by decide, hbudget⟩, ?_⟩
  rw [Nat.add_comm clock.reads, Clock.now]
  omega

section Acquire

variable {peer : Nat → Words → Words} {timeout : UInt32} {words : Words} {clock : Clock}

/-- Where the clock gets past the budget, an acquisition ends.  It is granted only from a free lockout, and
a refusal leaves the request as it was. -/
theorem acquire_ends (hpeer : ByWorker peer) (hclock : Reaches clock (Caller.budget timeout))
    (words : Words) :
    (acquire peer timeout words clock).verdict = .held ∧ words.requested = false ∨
      ∃ f, (acquire peer timeout words clock).verdict = .refused f ∧
        (acquire peer timeout words clock).words.requested = words.requested := by
  cases hfree : words.requested with
  | true =>
    have hbusy : (peer 0 words).requested = true := (hpeer.requested 0 words).trans hfree
    rw [acquire_busy hbusy]
    exact Or.inr ⟨.busy, rfl, hbusy⟩
  | false =>
    let a : Attempt := { peer, byWorker := hpeer, timeout, words, free := hfree, clock }
    have hresult : acquire peer timeout words clock = a.result := rfl
    rw [hresult]
    cases hvictim : (a.met 2).victim with
    | false =>
      rw [Attempt.result_unattended hvictim]
      exact Or.inl ⟨rfl, rfl⟩
    | true =>
      obtain ⟨i, hpos, hi, hlate⟩ := hclock
      obtain ⟨hends, _⟩ := Attempt.result_endsWith hvictim hpos (by omega) hlate
      rcases hends.cases hvictim with ⟨j, _, heq⟩ | ⟨i, _, heq⟩
      · rw [heq]
        exact Or.inl ⟨rfl, rfl⟩
      · rw [heq]
        exact Or.inr ⟨.timeout, rfl, rfl⟩

/-- An acquisition reads the clock and does not set it. -/
theorem acquire_reading (peer : Nat → Words → Words) (timeout : UInt32) (words : Words)
    (clock : Clock) : (acquire peer timeout words clock).clock.reading = clock.reading :=
  run_reading peer _ _ _ words clock

end Acquire

end FanBoard.Lockout
