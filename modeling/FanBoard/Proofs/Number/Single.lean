import FanBoard.Number.Single

/-!
# Singles by their unpacked values

The operations on singles unpack their operands, compute and pack the result.  This file gives the
facts that the theory needs, each proved on the unpacked value.

* `le_iff` and `lt_iff` state a comparison on the unpacked values.
* `sub_self_cases`: a value minus itself is zero, or not a number where the value is an infinity or
  not a number itself.
* `sub_of_isNaN`: what is subtracted from a value that is not a number leaves one.
* `abs_sub_of_beq`: equal values differ by nothing, or by what is not a number.
* `le_of_not_lt`: of two numbers, one is less than the other or at least as great.
* `clamp_percent` and `floorAtZero_nonneg` are the ranges of the two bounds.
-/

namespace FanBoard.Single

open Float.Model (Format UnpackedFloat)

/-- The value that is not a number. -/
def nan : Float32 :=
  .ofModel (.pack .notANumber)

theorem le_iff (x y : Float32) : x ≤ y ↔ (unpack x).le (unpack y) = true :=
  decide_eq_true_iff

theorem lt_iff (x y : Float32) : x < y ↔ (unpack x).lt (unpack y) = true :=
  decide_eq_true_iff

theorem unpack_nan : unpack nan = .notANumber := by rfl

theorem unpack_zero : unpack 0 = .zero .positive := by rfl

/-- No value is at most one that is not a number. -/
theorem not_le_nan (x : Float32) : ¬x ≤ nan := by
  rw [le_iff, unpack_nan, UnpackedFloat.le]
  cases unpack x <;> exact Bool.false_ne_true

/-- No positive value is at most zero. -/
theorem not_le_zero_of_pos {x : Float32} (h : 0 < x) : ¬x ≤ 0 := by
  rw [lt_iff, unpack_zero, UnpackedFloat.lt] at h
  rw [le_iff, unpack_zero, UnpackedFloat.le]
  cases hx : unpack x with
  | infinity s | finite s m e hm =>
    rw [hx] at h
    cases s with
    | negative => exact absurd h Bool.false_ne_true
    | positive => exact Bool.false_ne_true
  | notANumber => exact Bool.false_ne_true
  | zero s =>
    rw [hx] at h
    exact absurd h Bool.false_ne_true

/-- Equal finite values cancel to the positive zero. -/
theorem unpacked_sub_self (format : Format) (x : UnpackedFloat) :
    x.sub format x = .notANumber ∨ x.sub format x = .zero .positive := by
  cases x with
  | notANumber => exact Or.inl rfl
  | infinity s => cases s <;> exact Or.inl rfl
  | zero s => cases s <;> exact Or.inr rfl
  | finite s m e hm =>
    have hcancel : ∀ k : Int,
        UnpackedFloat.normalize format (k - k) (min e e) .positive = .zero .positive := by
      intro k
      rw [Int.sub_self]
      rfl
    exact Or.inr (hcancel _)

theorem sub_self_cases (x : Float32) : x - x = nan ∨ x - x = 0 := by
  have hsub : x - x = .ofModel (.pack ((unpack x).sub Format.binary32 (unpack x))) := rfl
  rw [hsub]
  rcases unpacked_sub_self Format.binary32 (unpack x) with h | h
  · exact Or.inl (by rw [h]; rfl)
  · exact Or.inr (by rw [h]; decide)

theorem isNaN_iff (x : Float32) : x.isNaN = true ↔ unpack x = .notANumber := by
  show (unpack x).isNaN = true ↔ _
  cases unpack x with
  | notANumber => exact iff_of_true rfl rfl
  | infinity s | zero s | finite s m e hm => exact iff_of_false Bool.false_ne_true nofun

theorem sub_of_isNaN {x : Float32} (h : x.isNaN = true) (y : Float32) : x - y = nan := by
  have hsub : x - y = .ofModel (.pack ((unpack x).sub Format.binary32 (unpack y))) := rfl
  rw [hsub, (isNaN_iff x).mp h]
  rfl

/-! ## Equal values -/

theorem beq_iff (x y : Float32) :
    (x == y) = true ↔ (unpack x).compare (unpack y) = some .eq := by
  show ((unpack x).compare (unpack y) == some .eq) = true ↔ _
  exact beq_iff_eq

/-- Unpacked values that compare equal are the same, but for the signs of zeros. -/
theorem eq_or_zeros_of_compare {a b : UnpackedFloat} (h : a.compare b = some .eq) :
    a = b ∨ ∃ s t, a = .zero s ∧ b = .zero t := by
  cases a with
  | notANumber => cases h
  | infinity s =>
    cases b with
    | infinity t =>
      cases s <;> cases t
      · exact Or.inl rfl
      · cases h
      · cases h
      · exact Or.inl rfl
    | _ => cases s <;> cases h
  | zero s =>
    cases b with
    | zero t => exact Or.inr ⟨s, t, rfl, rfl⟩
    | infinity t | finite t => cases t <;> cases h
    | notANumber => cases h
  | finite s m e hm =>
    cases b with
    | notANumber => cases s <;> cases h
    | infinity t | zero t => cases s <;> cases t <;> cases h
    | finite t m' e' hm' =>
      have hsame : (compare e e').then (compare m m') = .eq → e = e' ∧ m = m' := fun heq =>
        have hboth := Ordering.then_eq_eq.mp heq
        ⟨Int.compare_eq_eq.mp hboth.1, Nat.compare_eq_eq.mp hboth.2⟩
      cases s <;> cases t
      · obtain ⟨rfl, rfl⟩ := hsame (Ordering.swap_eq_eq.mp (Option.some.inj h))
        exact Or.inl rfl
      · cases h
      · cases h
      · obtain ⟨rfl, rfl⟩ := hsame (Option.some.inj h)
        exact Or.inl rfl

/-- Equal values differ by nothing, or by what is not a number. -/
theorem abs_sub_of_beq {x y : Float32} (h : (x == y) = true) :
    (x - y).abs = nan ∨ (x - y).abs = 0 := by
  have hsub : x - y = .ofModel (.pack ((unpack x).sub Format.binary32 (unpack y))) := rfl
  have hunpacked : (unpack x).sub Format.binary32 (unpack y) = .notANumber ∨
      ∃ s, (unpack x).sub Format.binary32 (unpack y) = .zero s := by
    rcases eq_or_zeros_of_compare ((beq_iff x y).mp h) with heq | ⟨s, t, hx, hy⟩
    · rw [heq]
      exact (unpacked_sub_self _ _).imp_right fun hzero => ⟨_, hzero⟩
    · right
      rw [hx, hy]
      cases s <;> cases t <;> exact ⟨_, rfl⟩
  rw [hsub]
  rcases hunpacked with hnan | ⟨s, hzero⟩
  · left
    rw [hnan]
    decide
  · right
    rw [hzero]
    cases s <;> decide

/-! ## Order -/

/-- Comparing the other way round gives the opposite answer. -/
theorem compare_swap (a b : UnpackedFloat) :
    b.compare a = (a.compare b).map Ordering.swap := by
  have hsign : ∀ s t : UnpackedFloat.Sign, compare t s = (compare s t).swap := by
    intro s t
    cases s <;> cases t <;> rfl
  have hfinite : ∀ (e e' : Int) (m m' : Nat), (compare e' e).then (compare m' m) =
      ((compare e e').then (compare m m')).swap := by
    intro e e' m m'
    rw [Ordering.swap_then, Int.compare_swap, Nat.compare_swap]
  cases a with
  | notANumber => cases b with
    | infinity t => cases t <;> rfl
    | zero t => rfl
    | finite t => cases t <;> rfl
    | notANumber => rfl
  | infinity s =>
    cases b with
    | infinity t => exact congrArg some (hsign s t)
    | _ => cases s <;> rfl
  | zero s =>
    cases b with
    | infinity t => cases t <;> rfl
    | finite t m e h => cases t <;> rfl
    | _ => rfl
  | finite s m e h =>
    cases b with
    | infinity t => cases s <;> cases t <;> rfl
    | notANumber => cases s <;> rfl
    | zero t => cases s <;> rfl
    | finite t m' e' h' =>
      cases s <;> cases t
      · exact congrArg some (congrArg Ordering.swap (hfinite e e' m m'))
      · rfl
      · rfl
      · exact congrArg some (hfinite e e' m m')

/-- Two numbers compare one way or the other. -/
theorem compare_ne_none {a b : UnpackedFloat} (ha : a ≠ .notANumber) (hb : b ≠ .notANumber) :
    a.compare b ≠ none := by
  cases a with
  | notANumber => exact absurd rfl ha
  | infinity s =>
    cases b with
    | notANumber => exact absurd rfl hb
    | infinity t | zero t | finite t => cases s <;> exact nofun
  | zero s =>
    cases b with
    | infinity t | finite t => cases t <;> exact nofun
    | notANumber => exact absurd rfl hb
    | zero t => exact nofun
  | finite s =>
    cases b with
    | infinity t | finite t => cases s <;> cases t <;> exact nofun
    | notANumber => exact absurd rfl hb
    | zero t => cases s <;> exact nofun

theorem le_of_lt {x y : Float32} (h : x < y) : x ≤ y := by
  rw [lt_iff, UnpackedFloat.lt, beq_iff_eq] at h
  rw [le_iff, UnpackedFloat.le, h]
  rfl

/-- Of two numbers, one is less than the other or at least as great. -/
theorem le_of_not_lt {x y : Float32} (hx : x.isNaN = false) (hy : y.isNaN = false)
    (h : ¬x < y) : y ≤ x := by
  have hnumber : ∀ {z : Float32}, z.isNaN = false → unpack z ≠ .notANumber :=
    fun hz hnan => Bool.false_ne_true (hz ▸ (isNaN_iff _).mpr hnan)
  have hsome := compare_ne_none (hnumber hx) (hnumber hy)
  rw [lt_iff, UnpackedFloat.lt, beq_iff_eq] at h
  rw [le_iff, UnpackedFloat.le, compare_swap (unpack x) (unpack y)]
  cases hc : (unpack x).compare (unpack y) with
  | none => exact absurd hc hsome
  | some o =>
    cases o with
    | lt => exact absurd hc h
    | eq | gt => rfl

/-- What is at least zero is a number. -/
theorem isNaN_of_nonneg {x : Float32} (h : 0 ≤ x) : x.isNaN = false := by
  refine Bool.eq_false_iff.mpr fun hnan => ?_
  rw [le_iff, (isNaN_iff x).mp hnan, unpack_zero] at h
  cases h

/-- A number brought into the range of percents is in it. -/
theorem clamp_percent {x : Float32} (h : x.isNaN = false) :
    0 ≤ clamp x 0 100 ∧ clamp x 0 100 ≤ 100 := by
  unfold clamp
  split
  · exact ⟨by decide, by decide⟩
  · rename_i hlow
    split
    · exact ⟨by decide, by decide⟩
    · rename_i hhigh
      exact ⟨le_of_not_lt h (by decide) hlow, le_of_not_lt (by decide) h hhigh⟩

theorem floorAtZero_nonneg (x : Float32) : 0 ≤ floorAtZero x := by
  unfold floorAtZero
  split
  · rename_i hpos
    exact le_of_lt hpos
  · decide

end FanBoard.Single
