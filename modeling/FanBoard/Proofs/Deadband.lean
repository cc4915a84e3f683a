import FanBoard.Deadband
import FanBoard.Proofs.Number.Single

/-!
# What the deadband lets through

A value that was just acted on is no change, whatever it is, as long as the threshold is positive
(`changed_self`), and neither is an equal one (`changed_of_beq`).  With a threshold of zero it is a
change (`changed_zero`).  A value that is not a number is no change, whatever the threshold is
(`isNaN_of_changed`).

A slot that meets samples one after the other holds `follow`, and `passes` counts the samples that
went into it.
-/

namespace FanBoard.Deadband

theorem abs_nan : Single.nan.abs = Single.nan := by
  decide

theorem changed_self (x : Float32) {threshold : Float32} (h : 0 < threshold) :
    changed x x threshold = false := by
  rw [changed, decide_eq_false_iff_not]
  rcases Single.sub_self_cases x with hx | hx
  · rw [hx, abs_nan]
    exact Single.not_le_nan threshold
  · rw [hx, show (0 : Float32).abs = 0 by decide]
    exact Single.not_le_zero_of_pos h

/-- Where the threshold is positive, an equal value is no change. -/
theorem changed_of_beq {prev next threshold : Float32} (heq : (next == prev) = true)
    (h : 0 < threshold) : changed prev next threshold = false := by
  rw [changed, decide_eq_false_iff_not]
  rcases Single.abs_sub_of_beq heq with hnan | hzero
  · rw [hnan]
    exact Single.not_le_nan threshold
  · rw [hzero]
    exact Single.not_le_zero_of_pos h

/-- Where the threshold is zero, the value itself is a change. -/
theorem changed_zero {threshold : Float32} (hnonneg : 0 ≤ threshold) (h : ¬0 < threshold) :
    changed 0 0 threshold = true := by
  have hdistance : ((0 : Float32) - 0).abs = 0 := by decide
  rw [changed, decide_eq_true_iff, hdistance]
  exact Single.le_of_not_lt (by decide) (Single.isNaN_of_nonneg hnonneg) h

/-- What the deadband lets through is a number. -/
theorem isNaN_of_changed {prev next threshold : Float32}
    (h : changed prev next threshold = true) : next.isNaN = false := by
  refine Bool.eq_false_iff.mpr fun hnan => ?_
  rw [changed, decide_eq_true_iff, Single.sub_of_isNaN hnan, abs_nan] at h
  exact Single.not_le_nan threshold h

/-- What goes into the slot is a number. -/
theorem isNaN_of_apply {slot next threshold value prev : Float32}
    (h : apply slot next threshold = (value, some prev)) : value.isNaN = false := by
  unfold apply at h
  split at h
  · rename_i hchanged
    rw [← (Prod.mk.inj h).1]
    exact isNaN_of_changed hchanged
  · cases (Prod.mk.inj h).2

/-! ## One value -/

section Apply

variable {slot next threshold : Float32}

theorem apply_of_changed (h : changed slot next threshold = true) :
    apply slot next threshold = (next, some slot) :=
  if_pos h

theorem apply_of_not_changed (h : changed slot next threshold = false) :
    apply slot next threshold = (slot, none) :=
  if_neg (Bool.eq_false_iff.mp h)

end Apply

/-! ## One value after the other -/

/-- The value in the slot after samples. -/
def follow (threshold slot : Float32) (samples : List Float32) : Float32 :=
  samples.foldl (fun slot sample => (apply slot sample threshold).1) slot

/-- The number of samples that go into the slot. -/
def passes (threshold slot : Float32) : List Float32 → Nat
  | [] => 0
  | sample :: samples =>
    (if changed slot sample threshold then 1 else 0) +
      passes threshold (apply slot sample threshold).1 samples

theorem follow_append (threshold slot : Float32) (xs ys : List Float32) :
    follow threshold slot (xs ++ ys) = follow threshold (follow threshold slot xs) ys :=
  List.foldl_append

/-- The slot holds what it held at first or one of the samples. -/
theorem follow_keeps {P : Float32 → Prop} {threshold slot : Float32} {samples : List Float32}
    (hslot : P slot) (hsamples : ∀ sample ∈ samples, P sample) :
    P (follow threshold slot samples) := by
  refine List.foldlRecOn _ _ hslot fun slot' hslot' sample hmem => ?_
  unfold apply
  split
  · exact hsamples sample hmem
  · exact hslot'

theorem passes_append (threshold slot : Float32) (xs ys : List Float32) :
    passes threshold slot (xs ++ ys) =
      passes threshold slot xs + passes threshold (follow threshold slot xs) ys := by
  induction xs generalizing slot with
  | nil => exact (Nat.zero_add _).symm
  | cons x xs ih =>
    simp only [List.cons_append, passes, ih, Nat.add_assoc]
    rfl

end FanBoard.Deadband
