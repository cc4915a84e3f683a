import FanBoard.Proofs.TwoCores.Ownership
import Mathlib.Data.UInt

/-!
# The lockout excludes the worker

While a caller holds the lockout, the worker is not between its safe point and the end of its step.
It does not poll and it publishes nothing.  If the worker was known before the caller looked for
one, it stays parked for as long as the caller holds the lockout.

A caller is let in on one of two grounds.

* It saw the answer to its own number.  The number is new (`Sound.acked`: all answers so far have
  numbers that were taken before), so the worker read it after the caller took it.  From then on the
  worker goes round in its wait (`WorkerPhase.Answers`), because the request stays set until the
  caller gives it up.
* It saw no worker.  Then the worker had not started, and it finds the request set when it first
  comes to its safe point.

In both cases the worker is `WorkerPhase.Barred`.  `Sound` is the invariant of the run, and its field
`assured` says for each caller, by where it stands, how much of this it can rely on.  The numbers
wrap at 32 bits, so all of this needs that fewer than `UInt32.size` numbers were taken.
-/

namespace FanBoard

open Lockout

namespace WorkerPhase

/-- The worker waits at its safe point, and an answer that it is about to give has the number
`seq`. -/
def Answers (seq : UInt32) : WorkerPhase → Prop
  | .crossing .reading | .crossing .looking => True
  | .crossing (.answering n) => n = seq
  | .crossing .entering | .crossing .parking | .crossing .leaving | .crossing (.passed _) => False
  | .registering | .waking | .opening _ => False
  | .resuming _ | .polling _ | .publishing _ _ | .recording _ => False

/-- The worker has not started, or is at its safe point and not on its way out of it. -/
def Barred : WorkerPhase → Prop
  | .registering | .waking | .opening _ => True
  | .crossing .entering | .crossing .parking | .crossing .reading => True
  | .crossing (.answering _) | .crossing .looking => True
  | .crossing .leaving | .crossing (.passed _) => False
  | .resuming _ | .polling _ | .publishing _ _ | .recording _ => False

/-- The worker has noted that it waits, and has not noted the end of its wait. -/
def Parked : WorkerPhase → Prop
  | .crossing .reading | .crossing (.answering _) | .crossing .looking | .crossing .leaving => True
  | .crossing .entering | .crossing .parking | .crossing (.passed _) => False
  | .registering | .waking | .opening _ => False
  | .resuming _ | .polling _ | .publishing _ _ | .recording _ => False

theorem Answers.barred {seq : UInt32} {p : WorkerPhase} (h : p.Answers seq) : p.Barred := by
  cases p with
  | crossing c => cases c <;> trivial
  | _ => exact absurd h id

theorem Answers.parked {seq : UInt32} {p : WorkerPhase} (h : p.Answers seq) : p.Parked := by
  cases p with
  | crossing c => cases c <;> trivial
  | _ => exact absurd h id

theorem Barred.not_pastSafePoint {p : WorkerPhase} (h : p.Barred) : ¬p.PastSafePoint := by
  cases p with
  | crossing c => cases c <;> first | exact id | exact absurd h id
  | _ => first | exact id | exact absurd h id

end WorkerPhase

namespace TwoCores

variable {ι κ : Type}

/-! ## What the worker does while the request is set -/

/-- While the request is set, a worker that waits goes round in its wait and answers the number of
the request. -/
theorem work_answers (t : TachSource κ) {s : TwoCores ι κ}
    (hreq : s.shared.lockout.requested = true)
    (h : s.phase.Answers s.shared.lockout.requestSeq) :
    (s.work t).phase.Answers s.shared.lockout.requestSeq := by
  cases hp : s.phase with
  | crossing c =>
    rw [hp] at h
    cases c with
    | reading | answering n => simp [work, hp, leave, Checkpoint.step, WorkerPhase.Answers]
    | looking => simp [work, hp, leave, Checkpoint.step, WorkerPhase.Answers, hreq]
    | _ => exact absurd h id
  | _ =>
    rw [hp] at h
    exact absurd h id

/-- While the request is set, a worker that is barred stays barred. -/
theorem work_barred (t : TachSource κ) {s : TwoCores ι κ}
    (hreq : s.shared.lockout.requested = true) (h : s.phase.Barred) :
    (s.work t).phase.Barred := by
  cases hp : s.phase with
  | crossing c =>
    rw [hp] at h
    cases c with
    | leaving | passed b => exact absurd h id
    | _ => simp [work, hp, leave, Checkpoint.step, WorkerPhase.Barred, hreq]
  | registering | waking | opening now =>
    simp [work, hp, leave, readClock, WorkerPhase.Barred]
  | _ =>
    rw [hp] at h
    exact absurd h id

/-- Only an answer moves `parkAck`. -/
theorem work_parkAck_of_ne (t : TachSource κ) {s : TwoCores ι κ}
    (hp : ¬∃ n, s.phase = .crossing (.answering n)) :
    (s.work t).shared.lockout.parkAck = s.shared.lockout.parkAck := by
  rw [work_lockout]
  cases hphase : s.phase with
  | crossing c =>
    cases c with
    | answering n => exact absurd ⟨n, hphase⟩ hp
    | _ => rfl
  | _ => rfl

/-- An answer with the number of the request comes from a worker that waits. -/
theorem work_parkAck (t : TachSource κ) {s : TwoCores ι κ}
    (hreq : s.shared.lockout.requested = true)
    (h : s.shared.lockout.parkAck = s.shared.lockout.requestSeq →
      s.phase.Answers s.shared.lockout.requestSeq)
    (hack : (s.work t).shared.lockout.parkAck = s.shared.lockout.requestSeq) :
    (s.work t).phase.Answers s.shared.lockout.requestSeq := by
  by_cases hp : ∃ n, s.phase = .crossing (.answering n)
  · obtain ⟨n, hp⟩ := hp
    simp [work, hp, leave, Checkpoint.step, WorkerPhase.Answers]
  · rw [work_parkAck_of_ne t hp] at hack
    exact work_answers t hreq (h hack)

/-- The number that the worker is about to answer was just read. -/
theorem work_answering (t : TachSource κ) {s : TwoCores ι κ} {seq : UInt32}
    (h : (s.work t).phase = .crossing (.answering seq)) :
    seq = s.shared.lockout.requestSeq := by
  cases hp : s.phase with
  | crossing c =>
    cases c with
    | reading => simpa [work, hp, leave, Checkpoint.step, eq_comm] using h
    | entering | looking =>
      cases hreq : s.shared.lockout.requested <;>
        simp [work, hp, leave, Checkpoint.step, hreq] at h
    | passed b => cases b <;> simp [work, hp, readClock] at h
    | _ => simp [work, hp, leave, Checkpoint.step] at h
  | _ => simp [work, hp, leave, readClock] at h

/-- The worker notes its wait and its end. -/
theorem work_parked (t : TachSource κ) {s : TwoCores ι κ}
    (h : s.shared.lockout.parked = true ↔ s.phase.Parked) :
    (s.work t).shared.lockout.parked = true ↔ (s.work t).phase.Parked := by
  rw [work_lockout]
  cases hp : s.phase with
  | crossing c =>
    rw [hp] at h
    cases c with
    | entering | looking =>
      cases hreq : s.shared.lockout.requested <;>
        simpa [work, hp, leave, Checkpoint.step, WorkerPhase.touch, hreq,
          WorkerPhase.Parked] using h
    | passed b =>
      cases b <;>
        simpa [work, hp, readClock, Checkpoint.step, WorkerPhase.touch, WorkerPhase.Parked]
          using h
    | parking | leaving =>
      simp [work, hp, leave, Checkpoint.step, WorkerPhase.touch, WorkerPhase.Parked]
    | reading | answering n =>
      simpa [work, hp, leave, Checkpoint.step, WorkerPhase.touch, WorkerPhase.Parked] using h
  | _ =>
    rw [hp] at h
    simpa [work, hp, leave, readClock, WorkerPhase.touch, Words.registerVictim,
      WorkerPhase.Parked] using h

/-! ## The invariant -/

/-- What a caller can rely on, by where it stands. -/
def Assured (s : TwoCores ι κ) : Caller → Prop
  | .seeking _ seq | .starting _ seq | .looking _ seq _ | .timing _ seq _ =>
    seq = s.shared.lockout.requestSeq ∧
      (s.shared.lockout.parkAck = s.shared.lockout.requestSeq →
        s.phase.Answers s.shared.lockout.requestSeq)
  | .counting | .holding => s.phase.Barred
  | .claiming _ | .numbering _ | .withdrawing | .released | .refused _ => True

/-- The invariant of a run in which fewer than `UInt32.size` numbers were taken. -/
structure Sound (s : TwoCores ι κ) : Prop extends s.Owned where
  numbered : s.shared.lockout.requestSeq = UInt32.ofNat s.requests
  /-- The last answer has a number that was taken. -/
  acked : ∃ n ≤ s.requests, s.shared.lockout.parkAck = UInt32.ofNat n
  /-- The next answer has a number that was taken. -/
  answering : ∀ seq, s.phase = .crossing (.answering seq) → ∃ n ≤ s.requests, seq = UInt32.ofNat n
  unknown : s.shared.lockout.victim = false → s.phase = .registering
  parked : s.shared.lockout.parked = true ↔ s.phase.Parked
  assured : ∀ i, s.Assured (s.callers i)

theorem start_sound (timeout : ι → UInt32) (source : κ) (shared : Shared) :
    (start timeout source shared).Sound where
  toOwned := start_owned timeout source shared
  numbered := rfl
  acked := ⟨0, Nat.le_refl 0, rfl⟩
  answering _ h := by cases h
  unknown _ := rfl
  parked := iff_of_false Bool.false_ne_true id
  assured _ := trivial

/-- Nobody who is not engaged relies on anything. -/
theorem assured_of_not_engaged (s : TwoCores ι κ) {c : Caller} (h : ¬c.Engaged) : s.Assured c := by
  cases c with
  | claiming timeout | released | refused f => trivial
  | _ => exact absurd trivial h

/-- What a caller relies on is the phase of the worker and two words. -/
theorem assured_congr {s s' : TwoCores ι κ} {c : Caller} (hphase : s'.phase = s.phase)
    (hseq : s'.shared.lockout.requestSeq = s.shared.lockout.requestSeq)
    (hack : s'.shared.lockout.parkAck = s.shared.lockout.parkAck) (h : s.Assured c) :
    s'.Assured c := by
  unfold Assured at h ⊢
  rw [hphase, hseq, hack]
  exact h

/-- A number that was not yet taken has not been answered. -/
theorem Sound.unanswered {s : TwoCores ι κ} (h : s.Sound) (few : s.requests + 1 < UInt32.size) :
    s.shared.lockout.parkAck ≠ s.shared.lockout.requestSeq + 1 := by
  obtain ⟨n, hn, hack⟩ := h.acked
  rw [hack, h.numbered]
  intro heq
  have hnat := congrArg UInt32.toNat heq
  have hone : (1 : UInt32).toNat = 1 := rfl
  simp only [UInt32.toNat_add, UInt32.toNat_ofNat', hone] at hnat
  simp only [UInt32.size] at few
  omega

/-! ## One move of a caller -/

section Call

variable [DecidableEq ι]

/-- The step of a caller keeps what the caller itself can rely on. -/
theorem call_assured_self {s : TwoCores ι κ} (h : s.Sound) (i : ι)
    (few : (s.call i).requests < UInt32.size) : (s.call i).Assured ((s.call i).callers i) := by
  have hi := h.assured i
  rw [call_callers_self]
  cases hc : s.callers i with
  | claiming timeout =>
    simp only [Caller.step]
    split <;> trivial
  | numbering timeout =>
    -- the new number is ahead of all answers
    have few' : s.requests + 1 < UInt32.size := by
      simpa [call, hc, Caller.takesNumber] using few
    simp only [Caller.step, Assured, call, hc, true_and]
    exact fun heq => absurd heq (h.unanswered few')
  | seeking timeout seq =>
    rw [hc] at hi
    simp only [Caller.step]
    split
    · simpa [Assured, hc, Caller.step] using hi
    · -- there is no worker yet
      rename_i hvictim
      have hphase := h.unknown (Bool.eq_false_iff.mpr hvictim)
      simp [Assured, hphase, WorkerPhase.Barred]
  | starting timeout seq =>
    rw [hc] at hi
    simpa [Assured, hc, Caller.step] using hi
  | looking timeout seq start =>
    rw [hc] at hi
    simp only [Caller.step]
    split
    · rename_i hack
      exact (hi.2 (hack.trans hi.1)).barred
    · simpa [Assured, hc, Caller.step] using hi
  | timing timeout seq start =>
    rw [hc] at hi
    simp only [Caller.step]
    split
    · trivial
    · simpa [Assured, hc, Caller.step] using hi
  | counting =>
    rw [hc] at hi
    exact hi
  | _ => trivial

/-- The step of a caller keeps what the others can rely on: while one of them is engaged, the step
changes nothing. -/
theorem call_assured_of_ne {s : TwoCores ι κ} (h : s.Sound) {i j : ι} (hne : j ≠ i) :
    (s.call i).Assured ((s.call i).callers j) := by
  rw [call_callers_of_ne hne]
  by_cases hj : (s.callers j).Engaged
  · have hout := h.not_engaged hj hne
    have hreq := h.requested.mpr ⟨j, hj⟩
    have hsame := (Caller.step_of_not_engaged s.shared.clock.now hout hreq).2
    have hwords : (s.call i).shared.lockout = s.shared.lockout := by rw [call_lockout, hsame]
    exact assured_congr (s := s) rfl (by rw [hwords]) (by rw [hwords]) (h.assured j)
  · exact assured_of_not_engaged _ hj

theorem call_sound {s : TwoCores ι κ} (h : s.Sound) (i : ι)
    (few : (s.call i).requests < UInt32.size) : (s.call i).Sound where
  toOwned := call_owned h.toOwned i
  numbered := by
    rw [call_lockout, Caller.step_requestSeq, h.numbered]
    simp only [call]
    split
    · rw [UInt32.ofNat_add]
      rfl
    · rfl
  acked := by
    obtain ⟨n, hn, hack⟩ := h.acked
    exact ⟨n, hn.trans (requests_le_call s i), by simpa using hack⟩
  answering seq hseq := by
    obtain ⟨n, hn, heq⟩ := h.answering seq hseq
    exact ⟨n, hn.trans (requests_le_call s i), heq⟩
  unknown hv := h.unknown (by simpa using hv)
  parked := by
    rw [call_lockout, Caller.step_parked]
    exact h.parked
  assured j := by
    by_cases hne : j = i
    · subst hne
      exact call_assured_self h j few
    · exact call_assured_of_ne h hne

end Call

/-! ## One move of the worker -/

theorem work_sound (t : TachSource κ) {s : TwoCores ι κ} (h : s.Sound) : (s.work t).Sound where
  toOwned := work_owned t h.toOwned
  numbered := by
    rw [work_lockout, WorkerPhase.touch_requestSeq, work_requests]
    exact h.numbered
  acked := by
    rw [work_requests]
    by_cases hp : ∃ n, s.phase = .crossing (.answering n)
    · obtain ⟨n, hp⟩ := hp
      obtain ⟨k, hk, heq⟩ := h.answering n hp
      exact ⟨k, hk, by simpa [hp, WorkerPhase.touch, Checkpoint.step] using heq⟩
    · rw [work_parkAck_of_ne t hp]
      exact h.acked
  answering seq hseq := by
    rw [work_requests]
    have := work_answering t hseq
    exact ⟨s.requests, Nat.le_refl _, this.trans h.numbered⟩
  unknown hv := by
    -- a worker that is not known has not registered, and it just does
    rw [work_lockout] at hv
    cases hp : s.phase with
    | registering => simp [hp, WorkerPhase.touch, Words.registerVictim] at hv
    | crossing c =>
      rw [hp, WorkerPhase.touch_victim _ _ (by simp)] at hv
      exact absurd ((h.unknown hv).symm.trans hp) (by simp)
    | _ =>
      rw [hp] at hv
      exact absurd ((h.unknown hv).symm.trans hp) (by simp)
  parked := work_parked t h.parked
  assured i := by
    rw [work_callers]
    by_cases hi : (s.callers i).Engaged
    · have hreq := h.requested.mpr ⟨i, hi⟩
      have hseq : (s.work t).shared.lockout.requestSeq = s.shared.lockout.requestSeq := by simp
      have hcaller := h.assured i
      cases hc : s.callers i with
      | seeking | starting | looking | timing =>
        rw [hc] at hcaller
        refine ⟨hcaller.1.trans hseq.symm, ?_⟩
        rw [hseq]
        exact work_parkAck t hreq hcaller.2
      | counting | holding =>
        rw [hc] at hcaller
        exact work_barred t hreq hcaller
      | _ => trivial
    · exact assured_of_not_engaged _ hi

/-! ## A whole run -/

variable [DecidableEq ι]

theorem step_sound (t : TachSource κ) {s : TwoCores ι κ} (h : s.Sound) (m : Move ι κ)
    (few : (s.step t m).requests < UInt32.size) : (s.step t m).Sound := by
  cases m with
  | call i => exact call_sound h i few
  | work => exact work_sound t h
  | arrive f =>
    exact ⟨⟨h.alone, h.requested⟩, h.numbered, h.acked, h.answering, h.unknown, h.parked, h.assured⟩

theorem run_sound (t : TachSource κ) {s : TwoCores ι κ} (h : s.Sound) (moves : List (Move ι κ))
    (few : (s.run t moves).requests < UInt32.size) : (s.run t moves).Sound := by
  induction moves generalizing s with
  | nil => exact h
  | cons m moves ih =>
    have few' := Nat.lt_of_le_of_lt (requests_le_run t (s.step t m) moves) few
    exact ih (step_sound t h m few') few

/-- The worker is known, and if the caller was let in, the worker answered it. -/
def Answered (s : TwoCores ι κ) (i : ι) : Prop :=
  s.shared.lockout.victim = true ∧
    ((s.callers i).Granted → s.phase.Answers s.shared.lockout.requestSeq)

theorem call_answered_self {s : TwoCores ι κ} (h : s.Sound) {i : ι} (hi : s.Answered i) :
    (s.call i).Answered i := by
  refine ⟨by simpa using hi.1, ?_⟩
  have hassured := h.assured i
  have hgranted := hi.2
  rw [call_callers_self, call_lockout, Caller.step_requestSeq]
  cases hc : s.callers i with
  | claiming timeout =>
    simp only [Caller.step]
    split <;> exact False.elim
  | seeking timeout seq =>
    simp only [Caller.step, hi.1, if_true]
    exact False.elim
  | looking timeout seq start =>
    rw [hc] at hassured
    simp only [Caller.step]
    split
    · rename_i hack
      exact fun _ => hassured.2 (hack.trans hassured.1)
    · exact False.elim
  | timing timeout seq start =>
    simp only [Caller.step]
    split <;> exact False.elim
  | counting =>
    rw [hc] at hgranted
    exact fun _ => hgranted trivial
  | _ => exact False.elim

theorem call_answered_of_ne {s : TwoCores ι κ} (h : s.Sound) {i j : ι} (hi : s.Answered i)
    (hne : i ≠ j) : (s.call j).Answered i := by
  refine ⟨by simpa using hi.1, ?_⟩
  rw [call_callers_of_ne hne]
  intro hgranted
  have hin := hgranted.engaged
  have hout := h.not_engaged hin hne
  have hsame := (Caller.step_of_not_engaged s.shared.clock.now hout (h.requested.mpr ⟨i, hin⟩)).2
  rw [call_lockout, hsame]
  exact hi.2 hgranted

omit [DecidableEq ι] in
theorem work_answered (t : TachSource κ) {s : TwoCores ι κ} (h : s.Sound) {i : ι}
    (hi : s.Answered i) : (s.work t).Answered i := by
  constructor
  · rw [work_lockout]
    by_cases hp : s.phase = .registering
    · rw [hp]
      rfl
    · rw [WorkerPhase.touch_victim _ _ hp]
      exact hi.1
  · rw [work_callers, work_lockout, WorkerPhase.touch_requestSeq]
    intro hgranted
    exact work_answers t (h.requested.mpr ⟨i, hgranted.engaged⟩) (hi.2 hgranted)

theorem step_answered (t : TachSource κ) {s : TwoCores ι κ} (h : s.Sound) {i : ι}
    (hi : s.Answered i) (m : Move ι κ) : (s.step t m).Answered i := by
  cases m with
  | call j =>
    by_cases hne : i = j
    · subst hne
      exact call_answered_self h hi
    · exact call_answered_of_ne h hi hne
  | work => exact work_answered t h hi
  | arrive f => exact hi

theorem run_answered (t : TachSource κ) {s : TwoCores ι κ} (h : s.Sound) {i : ι}
    (hi : s.Answered i) (moves : List (Move ι κ))
    (few : (s.run t moves).requests < UInt32.size) : (s.run t moves).Answered i := by
  induction moves generalizing s with
  | nil => exact hi
  | cons m moves ih =>
    have few' := Nat.lt_of_le_of_lt (requests_le_run t (s.step t m) moves) few
    exact ih (step_sound t h m few') (step_answered t h hi m) few

/-! ## What a barred worker does -/

/-- A barred worker neither polls nor publishes: the slots stay as they are, and of the worker's own
record only the source changes, where the worker starts it. -/
theorem step_of_barred (t : TachSource κ) {s : TwoCores ι κ} (h : s.phase.Barred) (m : Move ι κ) :
    (s.step t m).shared.slots = s.shared.slots ∧
      (s.step t m).worker.iterations = s.worker.iterations := by
  cases m with
  | call i => exact ⟨rfl, rfl⟩
  | arrive f => exact ⟨rfl, rfl⟩
  | work =>
    cases hp : s.phase with
    | crossing c =>
      rw [hp] at h
      cases c with
      | leaving | passed b => exact absurd h id
      | _ => simp [step, work, hp, leave]
    | registering | waking => simp [step, work, hp, leave, readClock]
    | opening now => simp [step, work, hp, leave, TachWorker.restart]
    | _ =>
      rw [hp] at h
      exact absurd h id

/-! ## The main result -/

/-- In a run the worker was known at a moment when the caller had not yet looked for one. -/
def KnownBeforeLook (t : TachSource κ) (s : TwoCores ι κ) (moves : List (Move ι κ)) (i : ι) : Prop :=
  ∃ before after, moves = before ++ after ∧
    (s.run t before).shared.lockout.victim = true ∧ ((s.run t before).callers i).BeforeLook

/-- While a caller holds the lockout, the worker is not past its safe point and neither polls nor
publishes.  If it was known before the caller looked for it, it is parked. -/
theorem worker_excluded_of_holding (t : TachSource κ) (timeout : ι → UInt32) (source : κ)
    (shared : Shared) (moves : List (Move ι κ)) (i : ι)
    (few : ((start timeout source shared).run t moves).requests < UInt32.size)
    (holds : ((start timeout source shared).run t moves).callers i = .holding) :
    let s := (start timeout source shared).run t moves
    ¬s.phase.PastSafePoint ∧
      (∀ m, (s.step t m).shared.slots = s.shared.slots ∧
        (s.step t m).worker.iterations = s.worker.iterations) ∧
      ((start timeout source shared).KnownBeforeLook t moves i →
        s.shared.lockout.parked = true) := by
  intro s
  have hstart := start_sound timeout source shared
  have hsound : s.Sound := run_sound t hstart moves few
  have hbarred : s.phase.Barred := by
    have := hsound.assured i
    rwa [holds] at this
  refine ⟨hbarred.not_pastSafePoint, step_of_barred t hbarred, ?_⟩
  rintro ⟨before, after, hmoves, hknown, hlook⟩
  have hsplit : s = ((start timeout source shared).run t before).run t after := by
    simp only [s, hmoves, run, List.foldl_append]
  have hfew := few
  rw [show (start timeout source shared).run t moves = s from rfl, hsplit] at hfew
  have hmid := run_sound t hstart before (Nat.lt_of_le_of_lt (requests_le_run t _ after) hfew)
  have hanswered : s.Answered i := by
    rw [hsplit]
    exact run_answered t hmid ⟨hknown, fun hg => absurd hg hlook.not_granted⟩ after hfew
  have hgranted : (s.callers i).Granted := by
    rw [show s.callers i = .holding from holds]
    trivial
  exact hsound.parked.mpr (hanswered.2 hgranted).parked

/-- Two callers and a worker before their first steps. -/
def atRest : TwoCores Bool PulseMeter :=
  start (fun _ => 100) (PulseMeter.ofMillis 1000) { clock := Clock.stepping 0 1 }

/-- One caller is let in without a worker.  The worker registers meanwhile and stops at its safe
point, and the second caller is let in on its answer. -/
def twoRounds : List (Move Bool PulseMeter) :=
  List.replicate 3 (.call true) ++ [.work, .call true, .work, .work, .call true] ++
    List.replicate 2 (.call false) ++ List.replicate 4 .work ++ List.replicate 4 (.call false)

theorem worker_excluded_of_holding_twoRounds :
    (atRest.run PulseMeter.source twoRounds).requests < UInt32.size ∧
      (atRest.run PulseMeter.source twoRounds).callers false = .holding ∧
      atRest.KnownBeforeLook PulseMeter.source twoRounds false ∧
      ¬(atRest.run PulseMeter.source twoRounds).phase.PastSafePoint ∧
      (atRest.run PulseMeter.source twoRounds).shared.lockout.parked = true := by
  have few : (atRest.run PulseMeter.source twoRounds).requests < UInt32.size := by
    decide
  have holds : (atRest.run PulseMeter.source twoRounds).callers false = .holding := by
    decide
  have early : (atRest.run PulseMeter.source (twoRounds.take 8)).callers false =
      .claiming 100 := by
    decide
  have known : atRest.KnownBeforeLook PulseMeter.source twoRounds false := by
    refine ⟨twoRounds.take 8, twoRounds.drop 8, (List.take_append_drop 8 twoRounds).symm, ?_, ?_⟩
    · decide
    · rw [early]
      trivial
  have h := worker_excluded_of_holding PulseMeter.source _ _ _ twoRounds false few holds
  exact ⟨few, holds, known, h.1, h.2.2 known⟩

end TwoCores

end FanBoard
