import FanBoard.Proofs.TwoCores.Ownership
import Mathlib.Data.List.Induction
import Mathlib.Data.Set.Card

/-!
# One holder, and refusals that leave no trace

At most one caller holds the lockout or is on its way to it, and `requested` is set exactly while one
does.  A caller that found the lockout taken has written nothing.  A caller whose request took too
long has cleared its own request and nobody else's.  `rounds` counts the callers that were let in.

* `Untouched`: where a caller stands that has written nothing.  A caller that is refused as busy was
  there at all times (`run_untouched`).
* `clear_by_owner`: while a caller is engaged, nobody but the caller itself clears the request.  A
  withdrawal finds nobody else engaged (`withdrawal_clears`), and every caller that timed out went
  through one (`exists_withdrawal`).
* `Counted`: the callers let in so far are finitely many, and `rounds` is their number in 32 bits.

None of this depends on how many requests there are, because no number is compared.
-/

namespace FanBoard

open Lockout

namespace Lockout.Caller

/-- On the way from the claim to the lockout, or to the withdrawal. -/
def InProgress (c : Caller) : Prop :=
  c.Engaged ∧ c ≠ .holding

/-- Let in, whether or not it still holds the lockout. -/
def LetIn (c : Caller) : Prop :=
  c = .holding ∨ c = .released

/-- Has written nothing: before the claim, or refused as busy. -/
def Untouched : Caller → Prop
  | .claiming _ | .refused .busy => True
  | _ => False

theorem engaged_iff (c : Caller) : c.Engaged ↔ c = .holding ∨ c.InProgress := by
  by_cases h : c = .holding
  · subst h
    exact iff_of_true trivial (Or.inl rfl)
  · simp [InProgress, h]

/-! ## One step -/

/-- A caller that has written nothing after a step wrote nothing in the step. -/
theorem step_untouched {now : Nat} {c : Caller} {w : Words} (h : (c.step now w).1.Untouched) :
    c.Untouched ∧ (c.step now w).2 = w := by
  cases c with
  | claiming timeout =>
    refine ⟨trivial, ?_⟩
    cases hw : w.requested with
    | true => simp [step, hw]
    | false =>
      simp only [step, hw] at h
      exact absurd h id
  | refused f => exact ⟨h, rfl⟩
  | seeking timeout seq | looking timeout seq start | timing timeout seq start =>
    simp only [step] at h
    split at h <;> exact absurd h id
  | _ => exact absurd h id

/-- A request times out in one way. -/
theorem step_timeout {now : Nat} {c : Caller} {w : Words}
    (h : (c.step now w).1 = .refused .timeout) : c = .withdrawing ∨ c = .refused .timeout := by
  cases c with
  | withdrawing => exact Or.inl rfl
  | refused f => exact Or.inr h
  | claiming timeout | seeking timeout seq | looking timeout seq start
  | timing timeout seq start =>
    simp only [step] at h
    split at h <;> cases h
  | _ => cases h

/-- A caller is let in where it is counted. -/
theorem step_letIn (now : Nat) (c : Caller) (w : Words) :
    (c.step now w).1.LetIn ↔ c.LetIn ∨ c = .counting := by
  cases c with
  | claiming timeout | seeking timeout seq | looking timeout seq start
  | timing timeout seq start =>
    simp only [step]
    split <;> simp [LetIn]
  | _ => simp [step, LetIn]

theorem step_rounds (now : Nat) (c : Caller) (w : Words) :
    (c.step now w).2.rounds = if c = .counting then w.rounds + 1 else w.rounds := by
  cases c with
  | claiming timeout =>
    simp only [step]
    split <;> simp
  | _ => simp [step, Words.release]

end Lockout.Caller

@[simp] theorem WorkerPhase.touch_rounds (p : WorkerPhase) (w : Words) :
    (p.touch w).rounds = w.rounds := by
  cases p with
  | crossing c => cases c <;> rfl
  | _ => rfl

namespace TwoCores

variable {ι κ : Type} [DecidableEq ι]

theorem run_concat (t : TachSource κ) (s : TwoCores ι κ) (moves : List (Move ι κ))
    (m : Move ι κ) : s.run t (moves ++ [m]) = (s.run t moves).step t m := by
  simp [run]

/-- Only its own moves move a caller. -/
theorem step_callers_of_ne (t : TachSource κ) (s : TwoCores ι κ) {i : ι} {m : Move ι κ}
    (hm : m ≠ .call i) : (s.step t m).callers i = s.callers i := by
  cases m with
  | call j =>
    have hne : i ≠ j := fun heq => hm (heq ▸ rfl)
    exact call_callers_of_ne hne s
  | work => exact congrFun (work_callers t s) i
  | arrive f => rfl

/-! ## Refused as busy -/

/-- A caller that has written nothing at the end of a run wrote nothing in any of its moves. -/
theorem run_untouched (t : TachSource κ) {s : TwoCores ι κ} {moves : List (Move ι κ)} {i : ι}
    (h : ((s.run t moves).callers i).Untouched) :
    (s.callers i).Untouched ∧
      ∀ before after, moves = before ++ .call i :: after →
        ((s.run t before).call i).shared.lockout = (s.run t before).shared.lockout := by
  induction moves generalizing s with
  | nil =>
    refine ⟨h, ?_⟩
    intro before after heq
    simp at heq
  | cons m moves ih =>
    obtain ⟨hnext, hlater⟩ := ih h
    have hfirst : (s.callers i).Untouched ∧
        (m = .call i → (s.call i).shared.lockout = s.shared.lockout) := by
      by_cases hm : m = .call i
      · subst hm
        rw [step, call_callers_self] at hnext
        obtain ⟨hs, hwords⟩ := Caller.step_untouched hnext
        exact ⟨hs, fun _ => hwords⟩
      · rw [step_callers_of_ne t s hm] at hnext
        exact ⟨hnext, fun heq => absurd heq hm⟩
    refine ⟨hfirst.1, ?_⟩
    intro before after heq
    cases before with
    | nil => exact hfirst.2 (List.cons.inj heq).1
    | cons m' before =>
      obtain ⟨rfl, htail⟩ := List.cons.inj heq
      exact hlater before after htail

/-! ## Timed out -/

/-- While a caller is engaged, nobody else clears the request. -/
theorem clear_by_owner (t : TachSource κ) {s : TwoCores ι κ} (h : s.Owned) {i : ι}
    (hi : (s.callers i).Engaged) {m : Move ι κ}
    (hclear : (s.step t m).shared.lockout.requested = false) : m = .call i := by
  have hreq : s.shared.lockout.requested = true := h.requested.mpr ⟨i, hi⟩
  by_contra hm
  have hstill : ((s.step t m).callers i).Engaged := by rwa [step_callers_of_ne t s hm]
  have hset := (step_owned t h m).requested.mpr ⟨i, hstill⟩
  rw [hclear] at hset
  exact Bool.false_ne_true hset

/-- A withdrawal clears the request of the caller itself: nobody else is engaged. -/
theorem withdrawal_clears {s : TwoCores ι κ} (h : s.Owned) {i : ι}
    (hi : s.callers i = .withdrawing) :
    (s.call i).shared.lockout.requested = false ∧
      ∀ j, j ≠ i → ¬(s.callers j).Engaged := by
  constructor
  · rw [call_lockout, hi]
    rfl
  · intro j hj
    have hin : (s.callers i).Engaged := by
      rw [hi]
      trivial
    exact h.not_engaged hin hj.symm

/-- A caller that timed out withdrew its request at some moment. -/
theorem exists_withdrawal (t : TachSource κ) {s : TwoCores ι κ} {i : ι}
    (hs : s.callers i ≠ .refused .timeout) {moves : List (Move ι κ)}
    (h : (s.run t moves).callers i = .refused .timeout) :
    ∃ before after, moves = before ++ .call i :: after ∧
      (s.run t before).callers i = .withdrawing := by
  induction moves using List.reverseRecOn with
  | nil => exact absurd h hs
  | append_singleton moves m ih =>
    by_cases hearlier : (s.run t moves).callers i = .refused .timeout
    · obtain ⟨before, after, rfl, hwithdrawing⟩ := ih hearlier
      exact ⟨before, after ++ [m], by simp, hwithdrawing⟩
    · rw [run_concat] at h
      have hm : m = .call i := by
        by_contra hm
        rw [step_callers_of_ne t _ hm] at h
        exact hearlier h
      subst hm
      rw [step, call_callers_self] at h
      exact ⟨moves, [], rfl, (Caller.step_timeout h).resolve_right hearlier⟩

/-! ## Counting -/

/-- The callers that were let in. -/
def letIn (s : TwoCores ι κ) : Set ι :=
  {i | (s.callers i).LetIn}

omit [DecidableEq ι] in
theorem mem_letIn {s : TwoCores ι κ} {i : ι} : i ∈ s.letIn ↔ (s.callers i).LetIn :=
  Iff.rfl

/-- The callers that were let in are finitely many, and `rounds` is their number in 32 bits. -/
structure Counted (s : TwoCores ι κ) : Prop where
  finite : s.letIn.Finite
  rounds : s.shared.lockout.rounds = UInt32.ofNat s.letIn.ncard

omit [DecidableEq ι] in
theorem start_counted (timeout : ι → UInt32) (source : κ) (shared : Shared) :
    (start timeout source shared).Counted := by
  have hnone : (start timeout source shared).letIn = ∅ := by
    ext i
    simp [mem_letIn, start, Caller.LetIn]
  constructor
  · rw [hnone]
    exact Set.finite_empty
  · rw [hnone, Set.ncard_empty]
    rfl

theorem call_letIn (s : TwoCores ι κ) (i : ι) :
    (s.call i).letIn = if s.callers i = .counting then insert i s.letIn else s.letIn := by
  have hself : i ∈ (s.call i).letIn ↔ i ∈ s.letIn ∨ s.callers i = .counting := by
    rw [mem_letIn, mem_letIn, call_callers_self]
    exact Caller.step_letIn _ _ _
  have hother : ∀ j, j ≠ i → (j ∈ (s.call i).letIn ↔ j ∈ s.letIn) := by
    intro j hj
    rw [mem_letIn, mem_letIn, call_callers_of_ne hj]
  ext j
  by_cases hj : j = i
  · subst hj
    rw [hself]
    split <;> simp [*]
  · rw [hother j hj]
    split <;> simp [hj]

theorem step_counted (t : TachSource κ) {s : TwoCores ι κ} (h : s.Counted) (m : Move ι κ) :
    (s.step t m).Counted := by
  cases m with
  | call i =>
    have hrounds := Caller.step_rounds s.shared.clock.now (s.callers i) s.shared.lockout
    rw [← call_lockout] at hrounds
    constructor
    · rw [step, call_letIn]
      split
      · exact h.finite.insert i
      · exact h.finite
    · rw [step, hrounds, call_letIn, h.rounds]
      split
      · rename_i hcounting
        have hnew : i ∉ s.letIn := by
          simp [mem_letIn, hcounting, Caller.LetIn]
        rw [Set.ncard_insert_of_notMem hnew h.finite, UInt32.ofNat_add]
        rfl
      · rfl
  | work =>
    have hsame : (s.work t).letIn = s.letIn := by rw [letIn, work_callers]; rfl
    constructor
    · rw [step, hsame]
      exact h.finite
    · rw [step, hsame, work_lockout, WorkerPhase.touch_rounds]
      exact h.rounds
  | arrive f => exact ⟨h.finite, h.rounds⟩

theorem run_counted (t : TachSource κ) {s : TwoCores ι κ} (h : s.Counted)
    (moves : List (Move ι κ)) : (s.run t moves).Counted := by
  induction moves generalizing s with
  | nil => exact h
  | cons m moves ih => exact ih (step_counted t h m)

/-! ## The main result -/

omit [DecidableEq ι] in
/-- The request is set while somebody holds the lockout or exactly one caller is on its way. -/
theorem Owned.requested_iff {s : TwoCores ι κ} (h : s.Owned) :
    s.shared.lockout.requested = true ↔
      (∃ i, s.callers i = .holding) ∨ ∃! i, (s.callers i).InProgress := by
  rw [h.requested]
  constructor
  · rintro ⟨i, hi⟩
    rcases (Caller.engaged_iff _).mp hi with hholding | hprogress
    · exact Or.inl ⟨i, hholding⟩
    · exact Or.inr ⟨i, hprogress, fun j hj => h.alone j i hj.1 hi⟩
  · rintro (⟨i, hholding⟩ | ⟨i, hprogress, _⟩)
    · exact ⟨i, (Caller.engaged_iff _).mpr (Or.inl hholding)⟩
    · exact ⟨i, hprogress.1⟩

/-- In every state of every run:

* whoever holds the lockout is the only one that is engaged;
* the request is set exactly while somebody holds the lockout or exactly one caller is on its way;
* a caller that was refused as busy changed no word in any of its moves;
* a caller that timed out cleared the request while nobody else was engaged, and if the request is
  set now, another caller has taken it since;
* while a caller is engaged, only a move of that caller can clear the request;
* `rounds` is, in 32 bits, the number of callers that were let in. -/
theorem single_holder_and_clean_refusals (t : TachSource κ) (timeout : ι → UInt32) (source : κ)
    (shared : Shared) (moves : List (Move ι κ)) :
    let after := (start timeout source shared).run t
    let s := after moves
    (∀ i j, s.callers i = .holding → (s.callers j).Engaged → j = i) ∧
      (s.shared.lockout.requested = true ↔
        (∃ i, s.callers i = .holding) ∨ ∃! i, (s.callers i).InProgress) ∧
      (∀ i, s.callers i = .refused .busy → ∀ before later, moves = before ++ .call i :: later →
        ((after before).call i).shared.lockout = (after before).shared.lockout) ∧
      (∀ i, s.callers i = .refused .timeout →
        ∃ before later, moves = before ++ .call i :: later ∧
          (after before).callers i = .withdrawing ∧
          ((after before).call i).shared.lockout.requested = false ∧
          (∀ j, j ≠ i → ¬((after before).callers j).Engaged) ∧
          (s.shared.lockout.requested = true → ∃ j, j ≠ i ∧ (s.callers j).Engaged)) ∧
      (∀ i m, (s.callers i).Engaged → (s.step t m).shared.lockout.requested = false →
        m = .call i) ∧
      s.letIn.Finite ∧ s.shared.lockout.rounds = UInt32.ofNat s.letIn.ncard := by
  intro after s
  have howned : ∀ moves, (after moves).Owned :=
    run_owned t (start_owned timeout source shared)
  have hcounted : s.Counted := run_counted t (start_counted timeout source shared) moves
  refine ⟨?_, (howned moves).requested_iff, ?_, ?_, ?_, hcounted.finite, hcounted.rounds⟩
  · intro i j hi hj
    exact (howned moves).alone j i hj ((Caller.engaged_iff _).mpr (Or.inl hi))
  · intro i hi
    have huntouched : (s.callers i).Untouched := by
      rw [hi]
      trivial
    exact (run_untouched t huntouched).2
  · intro i hi
    obtain ⟨before, later, hmoves, hwithdrawing⟩ := exists_withdrawal t (by simp [start]) hi
    obtain ⟨hclear, halone⟩ := withdrawal_clears (howned before) hwithdrawing
    refine ⟨before, later, hmoves, hwithdrawing, hclear, halone, ?_⟩
    intro hset
    obtain ⟨j, hj⟩ := (howned moves).requested.mp hset
    refine ⟨j, ?_, hj⟩
    rintro rfl
    rw [hi] at hj
    exact hj
  · intro i m hi hclear
    exact clear_by_owner t (howned moves) hi hclear

end TwoCores

end FanBoard
