import FanBoard.Proofs.Timetable.Course
import Mathlib.Algebra.Order.Floor.Div

/-!
# Ticks at a fixed step

Where the ticks come at a fixed step, a slot with an interval runs every so many ticks.  Its stride
is the number of steps that the interval takes, rounded up.

* `elapsed_iff_stride_le`: as many ticks must have passed since the last run as the stride says.
* `fires_iff_dvd`: the slot runs in the ticks whose numbers are multiples of the stride.
* `runs_of_steps` counts these ticks, for a slot anywhere in a table.
* `runsOf_of_steps` is the count that a table with one slot gives.
-/

namespace FanBoard

variable {ρ : Type}

namespace Course

variable {c : Course ρ} {i k : Nat}

/-! ## Multiples -/

section Multiples

variable {d : Nat}

/-- If a slot runs in the multiples of `d`, it ran last in the greatest of them. -/
theorem lastFire_of_dvd (hd : 0 < d) (hk : 0 < k) (hfires : ∀ m < k, c.Fires i m ↔ d ∣ m) :
    c.LastFire i k ((k - 1) / d * d) := by
  have hle : (k - 1) / d * d ≤ k - 1 := Nat.div_mul_le_self (k - 1) d
  refine ⟨by omega, (hfires _ (by omega)).mpr (Nat.dvd_mul_left d _), ?_⟩
  intro m hafter hbefore hm
  obtain ⟨n, rfl⟩ := (hfires m hbefore).mp hm
  rw [Nat.mul_comm d] at hafter hbefore
  have hlt : (k - 1) / d < n := Nat.lt_of_mul_lt_mul_right hafter
  have hge : n ≤ (k - 1) / d := (Nat.le_div_iff_mul_le hd).mpr (by omega)
  omega

/-- From the greatest multiple of `d` below `k` it is `d` to `k` if `k` is a multiple itself, and
less if it is not. -/
theorem le_sub_div_mul_iff (hd : 0 < d) (hk : 0 < k) : d ≤ k - (k - 1) / d * d ↔ d ∣ k := by
  have hparts := Nat.div_add_mod' (k - 1) d
  have hmod := Nat.mod_lt (k - 1) hd
  constructor
  · intro hle
    have hnext : k = (k - 1) / d * d + d := by omega
    rw [hnext]
    exact Nat.dvd_add (Nat.dvd_mul_left d _) (Nat.dvd_refl d)
  · intro hdvd
    exact Nat.le_of_dvd (by omega) (Nat.dvd_sub hdvd (Nat.dvd_mul_left d _))

theorem countP_dvd (d n : Nat) :
    (List.range (n + 1)).countP (fun k => decide (d ∣ k)) = n / d + 1 := by
  induction n with
  | zero => simp
  | succ n ih =>
    rw [List.range_succ, List.countP_append, ih, Nat.succ_div]
    by_cases h : d ∣ n + 1
    · simp only [List.countP_singleton, h, decide_true, if_true]
    · simp [h]

end Multiples

/-! ## A slot of a table -/

section Steps

variable {start step : Nat} {task : Task} {ms : UInt32}
variable (hstep : 0 < step) (htime : ∀ k, c.time k = start + k * step)

include hstep htime

/-- The interval has passed when as many ticks have as the stride says. -/
theorem elapsed_iff_stride_le {j : Nat} (hlast : c.LastFire i k j) :
    c.Elapsed i ms k ↔ ms.toNat * 1000 ⌈/⌉ step ≤ k - j := by
  obtain ⟨gap, rfl⟩ := Nat.exists_eq_add_of_le (Nat.le_of_lt hlast.1)
  have hpassed :
      c.time j + ms.toNat * 1000 ≤ c.time (j + gap) ↔ ms.toNat * 1000 ≤ step * gap := by
    rw [htime, htime, Nat.add_mul, Nat.mul_comm gap]
    omega
  rw [ceilDiv_le_iff_le_smul hstep, smul_eq_mul, Nat.add_sub_cancel_left, ← hpassed]
  constructor
  · intro helapsed
    exact helapsed j hlast
  · intro h j' hlast'
    rwa [hlast'.unique hlast]

/-- A slot with an interval runs in the ticks whose numbers are multiples of its stride. -/
theorem fires_iff_dvd (hms : 1 ≤ ms) (h : c.table[i]? = some (task, .every ms)) (k : Nat) :
    c.Fires i k ↔ ms.toNat * 1000 ⌈/⌉ step ∣ k := by
  have hmono : Monotone c.time := by
    intro a b hab
    rw [htime, htime]
    exact Nat.add_le_add_left (Nat.mul_le_mul_right step hab) start
  have hstride : 0 < ms.toNat * 1000 ⌈/⌉ step := by
    have hpos : 1 ≤ ms.toNat := UInt32.le_iff_toNat_le.mp hms
    by_contra hzero
    have hnone := (ceilDiv_le_iff_le_smul hstep).mp (Nat.le_of_not_lt hzero)
    rw [smul_zero] at hnone
    omega
  induction k using Nat.strong_induction_on with
  | _ k ih =>
    have hdue : c.Fires i k ↔ c.Elapsed i ms k := fires_iff_due hmono h k
    rcases Nat.eq_zero_or_pos k with rfl | hk
    · exact iff_of_true (hdue.mpr fun j hj => absurd hj.1 (Nat.not_lt_zero j)) (Nat.dvd_zero _)
    · rw [hdue, elapsed_iff_stride_le hstep htime (lastFire_of_dvd hstride hk ih),
        le_sub_div_mul_iff hstride hk]

/-- How often a slot with an interval has run after `n + 1` ticks. -/
theorem runs_of_steps (hms : 1 ≤ ms) (h : c.table[i]? = some (task, .every ms)) (n : Nat) :
    ∃ s, (c.before (n + 1)).1.slots[i]? = some s ∧ s.task = task ∧
      s.runs = n / (ms.toNat * 1000 ⌈/⌉ step) + 1 := by
  obtain ⟨s, hs, htask, _⟩ := exists_slot h (n + 1)
  refine ⟨s, hs, htask, ?_⟩
  simp only [(slot_remembers hs).runs, fires_iff_dvd hstep htime hms h]
  exact countP_dvd _ n

end Steps

end Course

namespace Timetable

/-- A table with one slot, every `ms` milliseconds, and `n` ticks that come `step` microseconds
apart.  The count does not depend on when they begin. -/
theorem runsOf_of_steps (task : Task) {ms : UInt32} (hms : 1 ≤ ms) (runner : Runner ρ) (r : ρ)
    (start : Nat) {step n : Nat} (hstep : 1 ≤ step) (hn : 1 ≤ n) :
    (((add {} task (.every ms)).state.ticks runner
      ((List.range n).map fun k => start + k * step) r).1).runsOf task =
      (n - 1) / (ms.toNat * 1000 ⌈/⌉ step) + 1 := by
  obtain ⟨n, rfl⟩ := Nat.exists_eq_add_of_le' hn
  let c : Course ρ :=
    { asked := [(task, .every ms)], runner, time := fun k => start + k * step, start := r }
  have hbefore : c.before (n + 1) =
      (add {} task (.every ms)).state.ticks runner
        ((List.range (n + 1)).map fun k => start + k * step) r :=
    c.before_eq_ticks (fun _ _ => rfl) (n + 1)
  obtain ⟨s, hs, rfl, hruns⟩ := c.runs_of_steps hstep (fun _ => rfl) hms (i := 0) rfl n
  rw [← List.head?_eq_getElem?, List.head?_eq_some_iff] at hs
  obtain ⟨others, hslots⟩ := hs
  rw [← hbefore, runsOf, hslots]
  simp [hruns]

/-- A runner that counts the runs. -/
def counting : Runner Nat where
  run _ _ runs := runs + 1
  pending _ _ := false
  note _ runs := runs

/-- Two milliseconds take one and a third of the steps, so every second tick runs the task. -/
theorem runsOf_of_steps_uneven :
    (1 : UInt32) ≤ 2 ∧ 1 ≤ 1500 ∧ 1 ≤ 8 ∧ 2 * 1000 ⌈/⌉ 1500 = 2 ∧
      ((add {} .display (.every 2)).state.ticks counting
        ((List.range 8).map fun k => 5 + k * 1500) 0).1.runsOf .display = (8 - 1) / 2 + 1 := by
  have hms : (1 : UInt32) ≤ 2 := by decide
  have hstride : 2 * 1000 ⌈/⌉ 1500 = 2 := by decide
  have hruns := runsOf_of_steps .display hms counting 0 5
    (by decide : 1 ≤ 1500) (by decide : 1 ≤ 8)
  rw [show (2 : UInt32).toNat = 2 from rfl, hstride] at hruns
  exact ⟨hms, by decide, by decide, hstride, hruns⟩

end Timetable

end FanBoard
