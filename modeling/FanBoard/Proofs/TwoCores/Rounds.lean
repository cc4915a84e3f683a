import FanBoard.Proofs.TwoCores.Exclusion
import FanBoard.Proofs.TwoCores.SingleHolder

/-!
# No round loses the worker

The worker never stays in its wait while nobody asks for it, and nobody who asks is left without an
answer.  Both are counted in operations of the worker at its safe point, and five are enough.

* Without a request the worker leaves its safe point (`leaves_safePoint`): it goes round at most
  once, and notes the end of its wait.
* A caller that drew a number keeps it for as long as it is engaged (`Pending`), because nobody
  else draws one meanwhile.  `WorkerPhase.toAnswer` bounds the operations that are missing until
  the worker has answered this number.  An operation at the safe point makes it smaller and no
  other move makes it greater (`step_toAnswer`), until the answer stands (`Acknowledged`).  From
  then on the worker goes round in its wait (`step_acknowledged`).

The worst case is a worker that has just seen that it may leave.  It leaves, does the rest of its
step, and comes back to its safe point.

How often the numbers have wrapped does not matter for this.  That an answer with the right number
is no old one does need fewer than `UInt32.size` numbers (`step_unmistaken`).
-/

namespace FanBoard

open Lockout

namespace Lockout.Caller

/-- Engaged and past the draw of a number. -/
def Numbered : Caller → Prop
  | .seeking _ _ | .starting _ _ | .looking _ _ _ | .timing _ _ _ => True
  | .withdrawing | .counting | .holding => True
  | .claiming _ | .numbering _ | .released | .refused _ => False

/-- At the end of its acquisition. -/
def Done : Caller → Prop
  | .released | .refused _ => True
  | _ => False

theorem Numbered.engaged {c : Caller} (h : c.Numbered) : c.Engaged := by
  cases c with
  | claiming | numbering | released | refused => exact absurd h id
  | _ => trivial

theorem Numbered.takesNumber {c : Caller} (h : c.Numbered) : c.takesNumber = false := by
  cases c with
  | numbering timeout => exact absurd h id
  | _ => rfl

theorem Done.not_engaged {c : Caller} (h : c.Done) : ¬c.Engaged := by
  cases c with
  | released | refused f => exact id
  | _ => exact absurd h id

/-- A caller with a number keeps it until it is at its end. -/
theorem Numbered.step {c : Caller} (h : c.Numbered) (now : Nat) (w : Words) :
    (c.step now w).1.Numbered ∨ (c.step now w).1.Done := by
  cases c with
  | seeking timeout seq | looking timeout seq start | timing timeout seq start =>
    left
    simp only [Caller.step]
    split <;> trivial
  | starting timeout seq | counting => exact Or.inl trivial
  | withdrawing | holding => exact Or.inr trivial
  | _ => exact absurd h id

theorem Done.step {c : Caller} (h : c.Done) (now : Nat) (w : Words) : (c.step now w).1.Done := by
  cases c with
  | released | refused f => trivial
  | _ => exact absurd h id

theorem step_of_takesNumber {c : Caller} (h : c.takesNumber = true) (now : Nat) (w : Words) :
    (c.step now w).1.Numbered := by
  cases c with
  | numbering timeout => trivial
  | _ => exact absurd h Bool.false_ne_true

end Lockout.Caller

namespace WorkerPhase

/-- Whether the next operation of the worker is one of its safe point. -/
def atSafePoint : WorkerPhase → Bool
  | .crossing (.passed _) => false
  | .crossing _ => true
  | .registering | .waking | .opening _ => false
  | .resuming _ | .polling _ | .publishing _ _ | .recording _ => false

/-- The number of operations at its safe point after which the worker has answered `seq`, if the
request stays set and `seq` is its number. -/
def toAnswer (seq : UInt32) : WorkerPhase → Nat
  | .crossing .leaving => 5
  | .crossing .parking | .crossing .looking => 3
  | .crossing .reading => 2
  | .crossing (.answering n) => if n = seq then 1 else 4
  | .crossing .entering | .crossing (.passed _) => 4
  | .registering | .waking | .opening _ => 4
  | .resuming _ | .polling _ | .publishing _ _ | .recording _ => 4

theorem toAnswer_pos (seq : UInt32) (p : WorkerPhase) : 0 < p.toAnswer seq := by
  unfold toAnswer
  split <;> first | omega | (split <;> omega)

theorem toAnswer_le_five (seq : UInt32) (p : WorkerPhase) : p.toAnswer seq ≤ 5 := by
  unfold toAnswer
  split <;> first | omega | (split <;> omega)

end WorkerPhase

namespace TwoCores

variable {ι κ : Type}

/-! ## Leaving -/

/-- Without a request, and with nobody else moving, the worker leaves its safe point after at most
five operations, and then it does not show a wait. -/
theorem leaves_safePoint [DecidableEq ι] (t : TachSource κ) {s : TwoCores ι κ} {c : Checkpoint}
    (hphase : s.phase = .crossing c) (hfree : s.shared.lockout.requested = false)
    (hparked : s.shared.lockout.parked = true ↔ s.phase.Parked) :
    ∃ n ≤ 5, ∃ parked,
      (s.run t (List.replicate n .work)).phase = .crossing (.passed parked) ∧
        (s.run t (List.replicate n .work)).shared.lockout.parked = false := by
  have hshown : ¬s.phase.Parked → s.shared.lockout.parked = false := fun h =>
    Bool.eq_false_iff.mpr (mt hparked.mp h)
  rw [hphase] at hshown
  cases c with
  | entering =>
    refine ⟨1, by omega, false, ?_⟩
    simpa [run, step, work, hphase, leave, Checkpoint.step, hfree] using hshown id
  | parking =>
    refine ⟨5, by omega, true, ?_⟩
    simp [run, List.replicate, step, work, hphase, leave, Checkpoint.step, hfree]
  | reading =>
    refine ⟨4, by omega, true, ?_⟩
    simp [run, List.replicate, step, work, hphase, leave, Checkpoint.step, hfree]
  | answering seq =>
    refine ⟨3, by omega, true, ?_⟩
    simp [run, List.replicate, step, work, hphase, leave, Checkpoint.step, hfree]
  | looking =>
    refine ⟨2, by omega, true, ?_⟩
    simp [run, List.replicate, step, work, hphase, leave, Checkpoint.step, hfree]
  | leaving =>
    refine ⟨1, by omega, true, ?_⟩
    simp [run, step, work, hphase, leave, Checkpoint.step]
  | passed parked => exact ⟨0, by omega, parked, hphase, hshown id⟩

/-- The worker shows its wait in every state of a run, however many numbers were drawn. -/
theorem run_parked [DecidableEq ι] (t : TachSource κ) {s : TwoCores ι κ}
    (h : s.shared.lockout.parked = true ↔ s.phase.Parked) (moves : List (Move ι κ)) :
    (s.run t moves).shared.lockout.parked = true ↔ (s.run t moves).phase.Parked := by
  induction moves generalizing s with
  | nil => exact h
  | cons m moves ih =>
    apply ih (s := s.step t m)
    cases m with
    | call i =>
      rw [step, call_lockout, Caller.step_parked]
      exact h
    | work => exact work_parked t h
    | arrive f => exact h

/-! ## Numbers -/

/-- A caller that is engaged and has drawn the number `seq`, which nobody has drawn after. -/
structure Pending (s : TwoCores ι κ) (i : ι) (seq : UInt32) : Prop where
  numbered : (s.callers i).Numbered
  latest : s.shared.lockout.requestSeq = seq

/-- The worker has answered the number `seq` and waits at its safe point. -/
structure Acknowledged (s : TwoCores ι κ) (seq : UInt32) : Prop where
  acked : s.shared.lockout.parkAck = seq
  waits : s.phase.Answers seq

section Moves

variable [DecidableEq ι]

/-- Caller `i` draws the number `seq` in one of the moves. -/
def Draws (t : TachSource κ) (s : TwoCores ι κ) (moves : List (Move ι κ)) (i : ι)
    (seq : UInt32) : Prop :=
  ∃ before later, moves = before ++ .call i :: later ∧
    ((s.run t before).callers i).takesNumber = true ∧
    ((s.run t before).call i).shared.lockout.requestSeq = seq

/-- Whether a move is an operation of the worker at its safe point. -/
def crosses (s : TwoCores ι κ) : Move ι κ → Bool
  | .work => s.phase.atSafePoint
  | .call _ | .arrive _ => false

/-- The number of operations of the worker at its safe point in some moves. -/
def crossings (t : TachSource κ) (s : TwoCores ι κ) : List (Move ι κ) → Nat
  | [] => 0
  | m :: moves => (s.crosses m).toNat + crossings t (s.step t m) moves

/-- The request is set before, between and after the moves. -/
def SetThroughout (t : TachSource κ) (s : TwoCores ι κ) (moves : List (Move ι κ)) : Prop :=
  ∀ before later, moves = before ++ later → (s.run t before).shared.lockout.requested = true

theorem SetThroughout.cons {t : TachSource κ} {s : TwoCores ι κ} {m : Move ι κ}
    {moves : List (Move ι κ)} (h : s.SetThroughout t (m :: moves)) :
    (s.step t m).shared.lockout.requested = true ∧ (s.step t m).SetThroughout t moves := by
  refine ⟨h [m] moves rfl, fun before later heq => ?_⟩
  exact h (m :: before) later (by rw [heq, List.cons_append])

theorem run_append (t : TachSource κ) (s : TwoCores ι κ) (before after : List (Move ι κ)) :
    s.run t (before ++ after) = (s.run t before).run t after :=
  List.foldl_append

/-- Whoever is at its end stays there. -/
theorem run_done (t : TachSource κ) {s : TwoCores ι κ} {i : ι} (h : (s.callers i).Done)
    (moves : List (Move ι κ)) : ((s.run t moves).callers i).Done := by
  induction moves generalizing s with
  | nil => exact h
  | cons m moves ih =>
    apply ih (s := s.step t m)
    by_cases hm : m = .call i
    · subst hm
      rw [step, call_callers_self]
      exact h.step _ _
    · rwa [step_callers_of_ne t s hm]

/-- While a caller is engaged, the moves of the others leave the words to it and to the worker. -/
theorem call_lockout_of_ne {s : TwoCores ι κ} (howned : s.Owned) {i j : ι}
    (hi : (s.callers i).Engaged) (hne : j ≠ i) : (s.call j).shared.lockout = s.shared.lockout :=
  (Caller.step_of_not_engaged _ (howned.not_engaged hi (Ne.symm hne))
    (howned.requested.mpr ⟨i, hi⟩)).2

/-- While a caller is pending, no move draws a number, and only the worker answers. -/
theorem Pending.words {s : TwoCores ι κ} {i : ι} {seq : UInt32} (h : s.Pending i seq)
    (howned : s.Owned) (j : ι) :
    (s.call j).shared.lockout.requestSeq = seq ∧
      (s.call j).shared.lockout.parkAck = s.shared.lockout.parkAck := by
  by_cases hj : j = i
  · subst hj
    rw [call_lockout, Caller.step_requestSeq, Caller.step_parkAck, h.numbered.takesNumber]
    exact ⟨h.latest, rfl⟩
  · rw [call_lockout_of_ne howned h.numbered.engaged hj]
    exact ⟨h.latest, rfl⟩

variable {t : TachSource κ} {s : TwoCores ι κ} {i : ι} {seq : UInt32}

omit [DecidableEq ι] in
theorem Pending.requested (h : s.Pending i seq) (howned : s.Owned) :
    s.shared.lockout.requested = true :=
  howned.requested.mpr ⟨i, h.numbered.engaged⟩

/-- After a move a pending caller is still pending, or it is at its end. -/
theorem Pending.step (h : s.Pending i seq) (howned : s.Owned) (m : Move ι κ) :
    (s.step t m).Pending i seq ∨ ((s.step t m).callers i).Done := by
  cases m with
  | call j =>
    have hlatest := (h.words howned j).1
    by_cases hj : j = i
    · subst hj
      rcases h.numbered.step s.shared.clock.now s.shared.lockout with hnumbered | hdone
      · exact Or.inl ⟨by rwa [TwoCores.step, call_callers_self], hlatest⟩
      · right
        rwa [TwoCores.step, call_callers_self]
    · left
      refine ⟨?_, hlatest⟩
      rw [TwoCores.step, call_callers_of_ne (Ne.symm hj)]
      exact h.numbered
  | work =>
    left
    refine ⟨?_, ?_⟩
    · rw [TwoCores.step, work_callers]
      exact h.numbered
    · rw [TwoCores.step, work_lockout, WorkerPhase.touch_requestSeq]
      exact h.latest
  | arrive f => exact Or.inl ⟨h.numbered, h.latest⟩

/-- Whoever gives the request up clears it, so while it is set a pending caller stays pending. -/
theorem Pending.step_of_set (h : s.Pending i seq) (howned : s.Owned) {m : Move ι κ}
    (hset : (s.step t m).shared.lockout.requested = true) : (s.step t m).Pending i seq := by
  refine (h.step howned m).resolve_right fun hdone => ?_
  by_cases hm : m = .call i
  · subst hm
    have hout := hdone.not_engaged
    rw [TwoCores.step, call_callers_self] at hout
    rw [TwoCores.step, call_lockout] at hset
    rcases Caller.step_cases s.shared.clock.now (s.callers i) s.shared.lockout with
      ⟨hkeep, _⟩ | ⟨⟨hfirst, _⟩, _⟩ | ⟨_, _, hclear⟩
    · exact hout (hkeep.mpr h.numbered.engaged)
    · exact hfirst h.numbered.engaged
    · exact Bool.false_ne_true (hclear.symm.trans hset)
  · rw [step_callers_of_ne t s hm] at hdone
    exact hdone.not_engaged h.numbered.engaged

theorem Pending.run (h : s.Pending i seq) (howned : s.Owned) (moves : List (Move ι κ)) :
    (s.run t moves).Pending i seq ∨ ((s.run t moves).callers i).Done := by
  induction moves generalizing s with
  | nil => exact Or.inl h
  | cons m moves ih =>
    rcases h.step (t := t) howned m with hpending | hdone
    · exact ih hpending (step_owned t howned m)
    · exact Or.inr (run_done t hdone moves)

/-- While a caller that was pending is engaged, the request was set all the time. -/
theorem Pending.setThroughout (h : s.Pending i seq) (howned : s.Owned) {moves : List (Move ι κ)}
    (hend : ((s.run t moves).callers i).Engaged) : s.SetThroughout t moves := by
  rintro before later rfl
  rcases h.run (t := t) howned before with hpending | hdone
  · exact hpending.requested (run_owned t howned before)
  · rw [run_append] at hend
    exact absurd hend (run_done t hdone later).not_engaged

/-- Whoever draws a number is pending with it. -/
theorem pending_of_draw (hdraws : (s.callers i).takesNumber = true) :
    (s.call i).Pending i (s.call i).shared.lockout.requestSeq where
  numbered := by
    rw [call_callers_self]
    exact Caller.step_of_takesNumber hdraws _ _
  latest := rfl

/-- Whoever drew a number has it until the end of its acquisition. -/
theorem Draws.pending {moves : List (Move ι κ)} (h : s.Draws t moves i seq) (howned : s.Owned)
    (hend : ((s.run t moves).callers i).Engaged) : (s.run t moves).Pending i seq := by
  obtain ⟨before, later, rfl, hdraws, rfl⟩ := h
  have hrun : s.run t (before ++ .call i :: later) = ((s.run t before).call i).run t later :=
    run_append t s before _
  rw [hrun] at hend ⊢
  have howned' := call_owned (run_owned t howned before) i
  exact ((pending_of_draw hdraws).run howned' later).resolve_right fun hdone =>
    hdone.not_engaged hend

/-! ## Answers -/

/-- While a caller is pending, an answer to it stands. -/
theorem step_acknowledged (h : s.Pending i seq) (howned : s.Owned) (hack : s.Acknowledged seq)
    (m : Move ι κ) : (s.step t m).Acknowledged seq := by
  cases m with
  | call j => exact ⟨(h.words howned j).2.trans hack.acked, hack.waits⟩
  | arrive f => exact ⟨hack.acked, hack.waits⟩
  | work =>
    constructor
    · by_cases hp : ∃ n, s.phase = .crossing (.answering n)
      · obtain ⟨n, hp⟩ := hp
        have hn : n = seq := by
          have hwaits := hack.waits
          rwa [hp] at hwaits
        simp [step, hp, WorkerPhase.touch, Checkpoint.step, hn]
      · rw [step, work_parkAck_of_ne t hp]
        exact hack.acked
    · have hwaits := hack.waits
      rw [← h.latest] at hwaits ⊢
      exact work_answers t (h.requested howned) hwaits

/-- While a caller is pending, every operation of the worker at its safe point brings it nearer to
the answer, and no other move takes it away from there. -/
theorem step_toAnswer (h : s.Pending i seq) (howned : s.Owned) (m : Move ι κ) :
    (s.step t m).Acknowledged seq ∨
      (s.step t m).phase.toAnswer seq + (s.crosses m).toNat ≤ s.phase.toAnswer seq := by
  cases m with
  | call j => exact Or.inr (Nat.le_refl _)
  | arrive f => exact Or.inr (Nat.le_refl _)
  | work =>
    have hreq := h.requested howned
    have hseq := h.latest
    cases hp : s.phase with
    | crossing c =>
      cases c with
      | answering n =>
        by_cases hn : n = seq
        · left
          constructor
          · simp [step, hp, WorkerPhase.touch, Checkpoint.step, hn]
          · simp [step, work, hp, leave, Checkpoint.step, WorkerPhase.Answers]
        · right
          simp [step, work, hp, leave, Checkpoint.step, crosses, WorkerPhase.atSafePoint,
            WorkerPhase.toAnswer, hn]
      | passed parked =>
        right
        cases parked <;>
          simp [step, work, hp, readClock, crosses, WorkerPhase.atSafePoint, WorkerPhase.toAnswer]
      | _ =>
        right
        simp [step, work, hp, leave, Checkpoint.step, crosses, WorkerPhase.atSafePoint,
          WorkerPhase.toAnswer, hreq, hseq]
    | _ =>
      right
      simp [step, work, hp, leave, readClock, crosses, WorkerPhase.atSafePoint,
        WorkerPhase.toAnswer]

theorem run_acknowledged (h : s.Pending i seq) (howned : s.Owned) (hack : s.Acknowledged seq)
    {moves : List (Move ι κ)} (hset : s.SetThroughout t moves) :
    (s.run t moves).Acknowledged seq := by
  induction moves generalizing s with
  | nil => exact hack
  | cons m moves ih =>
    exact ih (h.step_of_set howned hset.cons.1) (step_owned t howned m)
      (step_acknowledged h howned hack m) hset.cons.2

theorem run_toAnswer (h : s.Pending i seq) (howned : s.Owned) {moves : List (Move ι κ)}
    (hset : s.SetThroughout t moves) :
    (s.run t moves).Acknowledged seq ∨
      (s.run t moves).phase.toAnswer seq + s.crossings t moves ≤ s.phase.toAnswer seq := by
  induction moves generalizing s with
  | nil => exact Or.inr (Nat.le_refl _)
  | cons m moves ih =>
    have hnext := h.step_of_set howned hset.cons.1
    have howned' := step_owned t howned m
    rcases step_toAnswer (t := t) h howned m with hack | hnearer
    · exact Or.inl (run_acknowledged hnext howned' hack hset.cons.2)
    · refine (ih hnext howned' hset.cons.2).imp_right fun hrest => ?_
      simp only [run, List.foldl_cons, crossings] at hrest ⊢
      omega

/-- After five operations of the worker at its safe point it has answered. -/
theorem acknowledged_of_five (h : s.Pending i seq) (howned : s.Owned) {moves : List (Move ι κ)}
    (hset : s.SetThroughout t moves) (hfive : 5 ≤ s.crossings t moves) :
    (s.run t moves).Acknowledged seq := by
  refine (run_toAnswer h howned hset).resolve_right fun hmissing => ?_
  have hsome := (s.run t moves).phase.toAnswer_pos seq
  have hmost := s.phase.toAnswer_le_five seq
  omega

/-! ## No old answer -/

/-- The answer to a number that was just drawn is not there yet, and later it comes only from a
worker that waits. -/
theorem step_unmistaken (h : s.Pending i seq) (howned : s.Owned)
    (hfresh : s.shared.lockout.parkAck = seq → s.phase.Answers seq) (m : Move ι κ)
    (hack : (s.step t m).shared.lockout.parkAck = seq) : (s.step t m).phase.Answers seq := by
  cases m with
  | call j => exact hfresh ((h.words howned j).2.symm.trans hack)
  | arrive f => exact hfresh hack
  | work =>
    rw [← h.latest] at hfresh hack ⊢
    exact work_parkAck t (h.requested howned) hfresh hack

theorem run_unmistaken (h : s.Pending i seq) (howned : s.Owned)
    (hfresh : s.shared.lockout.parkAck = seq → s.phase.Answers seq) {moves : List (Move ι κ)}
    (hset : s.SetThroughout t moves) (hack : (s.run t moves).shared.lockout.parkAck = seq) :
    (s.run t moves).phase.Answers seq := by
  induction moves generalizing s with
  | nil => exact hfresh hack
  | cons m moves ih =>
    exact ih (h.step_of_set howned hset.cons.1) (step_owned t howned m)
      (step_unmistaken h howned hfresh m) hset.cons.2 hack

/-- With fewer than `UInt32.size` numbers, an answer to the number that a caller has drawn was given
after the draw. -/
theorem Draws.answers {timeout : ι → UInt32} {source : κ} {shared : Shared}
    {moves : List (Move ι κ)} (h : (start timeout source shared).Draws t moves i seq)
    (few : ((start timeout source shared).run t moves).requests < UInt32.size)
    (hend : (((start timeout source shared).run t moves).callers i).Engaged)
    (hack : ((start timeout source shared).run t moves).shared.lockout.parkAck = seq) :
    ((start timeout source shared).run t moves).phase.Answers seq := by
  obtain ⟨before, later, rfl, hdraws, rfl⟩ := h
  let s := (start timeout source shared).run t before
  have hrun : (start timeout source shared).run t (before ++ .call i :: later) =
      (s.call i).run t later := run_append t _ before _
  rw [hrun] at few hend hack ⊢
  have hrequests : (s.call i).requests = s.requests + 1 := by simp [call, s, hdraws]
  have hfew : s.requests + 1 < UInt32.size :=
    hrequests ▸ Nat.lt_of_le_of_lt (requests_le_run t (s.call i) later) few
  have hsound : s.Sound :=
    run_sound t (start_sound timeout source shared) before (Nat.lt_of_succ_lt hfew)
  have howned : (s.call i).Owned := call_owned hsound.toOwned i
  have hdrawn := pending_of_draw hdraws
  have hnew : (s.call i).shared.lockout.parkAck ≠ (s.call i).shared.lockout.requestSeq := by
    rw [call_lockout, Caller.step_parkAck, Caller.step_requestSeq, if_pos hdraws]
    exact hsound.unanswered hfew
  exact run_unmistaken hdrawn howned (fun heq => absurd heq hnew)
    (hdrawn.setThroughout howned hend) hack

end Moves

/-! ## The main result -/

/-- In every state of every run:

* if the lockout is not requested and only the worker moves, it leaves its safe point after at most
  five operations, and then it does not show a wait;
* if a caller has drawn a number and has not given the request up, then five further operations of
  the worker at its safe point are enough for its answer to this number, as long as the caller does
  not give the request up before.  Once the answer stands, the worker stays in this wait and the
  answer stands for as long as the request is set.  If fewer than `UInt32.size` numbers were drawn,
  no old answer can be taken for it. -/
theorem no_round_loses_worker [DecidableEq ι] (t : TachSource κ) (timeout : ι → UInt32) (source : κ)
    (shared : Shared) (moves : List (Move ι κ)) :
    let first := start timeout source shared
    let s := first.run t moves
    (s.shared.lockout.requested = false → ∀ c, s.phase = .crossing c →
        ∃ n ≤ 5, ∃ parked,
          (s.run t (List.replicate n .work)).phase = .crossing (.passed parked) ∧
            (s.run t (List.replicate n .work)).shared.lockout.parked = false) ∧
      ∀ i seq, first.Draws t moves i seq → (s.callers i).Engaged →
        (∀ more, ((s.run t more).callers i).Engaged → 5 ≤ s.crossings t more →
            (s.run t more).Acknowledged seq) ∧
          (s.Acknowledged seq → ∀ more, s.SetThroughout t more →
            (s.run t more).Acknowledged seq) ∧
          (s.requests < UInt32.size → s.shared.lockout.parkAck = seq → s.Acknowledged seq) := by
  intro first s
  have howned : s.Owned := run_owned t (start_owned timeout source shared) moves
  constructor
  · intro hfree c hphase
    have hparked : s.shared.lockout.parked = true ↔ s.phase.Parked :=
      run_parked t (start_sound timeout source shared).parked moves
    exact leaves_safePoint t hphase hfree hparked
  · intro i seq hdraws hengaged
    have hpending : s.Pending i seq :=
      hdraws.pending (start_owned timeout source shared) hengaged
    refine ⟨?_, ?_, ?_⟩
    · intro more hend hfive
      exact acknowledged_of_five hpending howned (hpending.setThroughout howned hend) hfive
    · intro hack more hset
      exact run_acknowledged hpending howned hack hset
    · intro few hack
      exact ⟨hack, hdraws.answers few hengaged hack⟩

/-- One caller has held the lockout and released it.  The worker has seen that, and before it
leaves its wait another caller draws the next number. -/
def backToBack : List (Move Bool PulseMeter) :=
  List.replicate 3 .work ++ List.replicate 2 (.call true) ++ List.replicate 4 .work ++
    List.replicate 5 (.call true) ++ [.work] ++ List.replicate 2 (.call false)

/-- Between two rounds the worker needs five operations, and four are not enough. -/
theorem no_round_loses_worker_backToBack :
    let s := atRest.run PulseMeter.source backToBack
    atRest.Draws PulseMeter.source backToBack false 2 ∧ (s.callers false).Engaged ∧
      s.crossings PulseMeter.source (List.replicate 9 .work) = 4 ∧
      (s.run PulseMeter.source (List.replicate 9 .work)).shared.lockout.parkAck = 1 ∧
      s.crossings PulseMeter.source (List.replicate 10 .work) = 5 ∧
      (s.run PulseMeter.source (List.replicate 10 .work)).Acknowledged 2 := by
  intro s
  have hdraws : atRest.Draws PulseMeter.source backToBack false 2 := by
    refine ⟨backToBack.take 16, [], rfl, ?_, ?_⟩ <;> decide
  have hcaller : s.callers false = .seeking 100 2 := by decide
  have hengaged : (s.callers false).Engaged := by
    rw [hcaller]
    trivial
  have hfour : s.crossings PulseMeter.source (List.replicate 9 .work) = 4 := by decide
  have hold : (s.run PulseMeter.source (List.replicate 9 .work)).shared.lockout.parkAck = 1 := by
    decide
  have hfive : s.crossings PulseMeter.source (List.replicate 10 .work) = 5 := by decide
  have hstill : ((s.run PulseMeter.source (List.replicate 10 .work)).callers false).Engaged := by
    have hcaller' : (s.run PulseMeter.source (List.replicate 10 .work)).callers false =
        .seeking 100 2 := by decide
    rw [hcaller']
    trivial
  obtain ⟨-, hrounds⟩ := no_round_loses_worker PulseMeter.source (fun _ : Bool => 100)
    (PulseMeter.ofMillis 1000) { clock := Clock.stepping 0 1 } backToBack
  exact ⟨hdraws, hengaged, hfour, hold, hfive,
    (hrounds false 2 hdraws hengaged).1 _ hstill hfive.ge⟩

end TwoCores

end FanBoard
