import FanBoard.Proofs.TwoCores.Basic
import Mathlib.Tactic.Basic

/-!
# Who owns the lockout

A caller is engaged from the moment it claims the request until it releases or withdraws it.  The
word `requested` is set exactly while somebody is engaged, and never are two callers engaged at
once.  Both hold in every state of every run from the start.

* `Caller.step_keeps` says which words one step of a caller leaves alone.
* `Caller.step_cases` says what one step of a caller does to its engagement: it keeps it and leaves
  `requested` alone, or it claims the free request, or it gives the request up.
* `Owned` is the invariant, and `step_owned` and `run_owned` carry it through a run.
-/

namespace FanBoard

open Lockout

namespace Lockout.Caller

/-- Between the claim and the release. -/
def Engaged : Caller → Prop
  | .claiming _ | .released | .refused _ => False
  | .numbering _ | .seeking _ _ | .starting _ _ | .looking _ _ _ | .timing _ _ _ => True
  | .withdrawing | .counting | .holding => True

/-- Let in, whether or not that was counted. -/
def Granted : Caller → Prop
  | .counting | .holding => True
  | _ => False

theorem Granted.engaged {c : Caller} (h : c.Granted) : c.Engaged := by
  cases c with
  | counting | holding => trivial
  | _ => exact absurd h id

/-- Not yet past the look for a worker. -/
def BeforeLook : Caller → Prop
  | .claiming _ | .numbering _ | .seeking _ _ => True
  | _ => False

theorem BeforeLook.not_granted {c : Caller} (h : c.BeforeLook) : ¬c.Granted := by
  cases c with
  | counting | holding => exact absurd h id
  | _ => exact id

/-! ## One step of a caller -/

section

variable (now : Nat) (c : Caller) (w : Words)

/-- A number is taken from `requestSeq`, and nothing else moves that word.  What the worker writes
stays as it is. -/
theorem step_keeps :
    ((c.step now w).2.parkAck = w.parkAck ∧ (c.step now w).2.parked = w.parked ∧
        (c.step now w).2.victim = w.victim) ∧
      (c.step now w).2.requestSeq =
        if c.takesNumber then w.requestSeq + 1 else w.requestSeq := by
  cases c with
  | claiming timeout =>
    obtain ⟨requested, requestSeq, parkAck, parked, victim, rounds⟩ := w
    cases requested <;> exact ⟨⟨rfl, rfl, rfl⟩, rfl⟩
  | _ => exact ⟨⟨rfl, rfl, rfl⟩, rfl⟩

@[simp] theorem step_parkAck : (c.step now w).2.parkAck = w.parkAck :=
  (step_keeps now c w).1.1

@[simp] theorem step_parked : (c.step now w).2.parked = w.parked :=
  (step_keeps now c w).1.2.1

@[simp] theorem step_victim : (c.step now w).2.victim = w.victim :=
  (step_keeps now c w).1.2.2

theorem step_requestSeq :
    (c.step now w).2.requestSeq = if c.takesNumber then w.requestSeq + 1 else w.requestSeq :=
  (step_keeps now c w).2

end

/-- What a step does to the engagement of the caller and to the word that shows it. -/
theorem step_cases (now : Nat) (c : Caller) (w : Words) :
    ((c.step now w).1.Engaged ↔ c.Engaged) ∧ (c.step now w).2.requested = w.requested ∨
      (¬c.Engaged ∧ w.requested = false) ∧
        (c.step now w).1.Engaged ∧ (c.step now w).2.requested = true ∨
      c.Engaged ∧ ¬(c.step now w).1.Engaged ∧ (c.step now w).2.requested = false := by
  cases c with
  | claiming timeout =>
    cases h : w.requested <;> simp [step, Engaged, h]
  | withdrawing | holding =>
    exact Or.inr (Or.inr ⟨trivial, id, rfl⟩)
  | seeking timeout seq | looking timeout seq start | timing timeout seq start =>
    refine Or.inl ⟨?_, rfl⟩
    simp only [step]
    split <;> simp [Engaged]
  | _ => exact Or.inl ⟨Iff.rfl, rfl⟩

/-- A caller that is not engaged changes nothing while the request is taken. -/
theorem step_of_not_engaged (now : Nat) {c : Caller} {w : Words} (hc : ¬c.Engaged)
    (hw : w.requested = true) : ¬(c.step now w).1.Engaged ∧ (c.step now w).2 = w := by
  cases c with
  | claiming timeout => simp [step, hw, Engaged]
  | released | refused f => exact ⟨id, rfl⟩
  | _ => exact absurd trivial hc

end Lockout.Caller

namespace TwoCores

variable {ι κ : Type}

/-! ## The invariant -/

/-- At most one caller is engaged, and `requested` shows whether one is. -/
structure Owned (s : TwoCores ι κ) : Prop where
  alone : ∀ i j, (s.callers i).Engaged → (s.callers j).Engaged → i = j
  requested : s.shared.lockout.requested = true ↔ ∃ i, (s.callers i).Engaged

theorem start_owned (timeout : ι → UInt32) (source : κ) (shared : Shared) :
    (start timeout source shared).Owned where
  alone _ _ hi := absurd hi id
  requested := by simp [start, Caller.Engaged]

/-- Somebody who is engaged keeps the others from being so. -/
theorem Owned.not_engaged {s : TwoCores ι κ} (h : s.Owned) {i j : ι}
    (hj : (s.callers j).Engaged) (hne : j ≠ i) : ¬(s.callers i).Engaged :=
  fun hi => hne (h.alone j i hj hi)

theorem work_owned (t : TachSource κ) {s : TwoCores ι κ} (h : s.Owned) : (s.work t).Owned where
  alone := by
    rw [work_callers]
    exact h.alone
  requested := by
    rw [work_callers, work_lockout, WorkerPhase.touch_requested]
    exact h.requested

variable [DecidableEq ι]

theorem call_owned {s : TwoCores ι κ} (h : s.Owned) (i : ι) : (s.call i).Owned := by
  have other : ∀ j, j ≠ i → (s.call i).callers j = s.callers j :=
    fun j hj => call_callers_of_ne hj s
  rcases Caller.step_cases s.shared.clock.now (s.callers i) s.shared.lockout with
    ⟨hkeep, hreq⟩ | ⟨⟨_, hfree⟩, hin, hreq⟩ | ⟨hin, hout, hreq⟩
  · -- everybody is engaged as before
    have same : ∀ j, ((s.call i).callers j).Engaged ↔ (s.callers j).Engaged := by
      intro j
      by_cases hj : j = i
      · subst hj
        rw [call_callers_self]
        exact hkeep
      · rw [other j hj]
    constructor
    · intro j k hj hk
      exact h.alone j k ((same j).mp hj) ((same k).mp hk)
    · rw [call_lockout, hreq, h.requested]
      exact exists_congr fun j => (same j).symm
  · -- nobody was engaged, and `i` claims the request
    have nobody : ∀ j, ¬(s.callers j).Engaged := by
      intro j hj
      rw [h.requested.mpr ⟨j, hj⟩] at hfree
      exact absurd hfree (by decide)
    have only : ∀ j, ((s.call i).callers j).Engaged → j = i := by
      intro j hj
      by_contra hne
      rw [other j hne] at hj
      exact nobody j hj
    constructor
    · intro j k hj hk
      rw [only j hj, only k hk]
    · rw [call_lockout, hreq]
      exact iff_of_true rfl ⟨i, by rwa [call_callers_self]⟩
  · -- `i` gives the request up, and it was the only one
    have nobody : ∀ j, ¬((s.call i).callers j).Engaged := by
      intro j hj
      by_cases hji : j = i
      · subst hji
        rw [call_callers_self] at hj
        exact hout hj
      · rw [other j hji] at hj
        exact hji (h.alone j i hj hin)
    constructor
    · intro j _ hj
      exact absurd hj (nobody j)
    · rw [call_lockout, hreq]
      exact iff_of_false (by decide) fun ⟨j, hj⟩ => nobody j hj

theorem step_owned (t : TachSource κ) {s : TwoCores ι κ} (h : s.Owned) (m : Move ι κ) :
    (s.step t m).Owned := by
  cases m with
  | call i => exact call_owned h i
  | work => exact work_owned t h
  | arrive f => exact ⟨h.alone, h.requested⟩

theorem run_owned (t : TachSource κ) {s : TwoCores ι κ} (h : s.Owned) (moves : List (Move ι κ)) :
    (s.run t moves).Owned := by
  induction moves generalizing s with
  | nil => exact h
  | cons m moves ih => exact ih (step_owned t h m)

end TwoCores

end FanBoard
