import Mathlib.Algebra.Order.Field.Power
import Mathlib.Data.Rat.Floor
import Mathlib.Tactic.FieldSimp
import Mathlib.Tactic.Linarith
import Mathlib.Tactic.Positivity
import Mathlib.Tactic.Ring

/-!
# Rounding to the nearest

Float operations keep a mantissa with two bits that tell how the exact value lies above it.  They
shift this until the mantissa is short enough, round it, and shift once more where it overflowed.
This file says on rational numbers what comes out.

* `Nearest` is the nearest whole number, a tie to the even one.
* `Shows` says that a mantissa with its two bits stands for a rational number.  Every shift halves
  this number (`Shows.shiftRight`), and rounding gives the nearest whole number to it
  (`Shows.roundedMantissa`).
* `roundWithAccuracy_eq` is the whole operation.
-/

namespace FanBoard.Rounding

open Float.Model (Format UnpackedFloat totalExponent)
open Float.Model.UnpackedFloat

/-! ## The nearest whole number -/

/-- The nearest whole number to `y`, and the even one of two that are equally near. -/
def Nearest (n : Nat) (y : ℚ) : Prop :=
  |y - n| < 1 / 2 ∨ |y - n| = 1 / 2 ∧ n % 2 = 0

theorem Nearest.near {n : Nat} {y : ℚ} (h : Nearest n y) : |y - n| ≤ 1 / 2 := by
  rcases h with h | h
  · exact h.le
  · exact h.1.le

/-- Of two numbers that are both nearest, the first is not the lesser: they would lie one apart, and
both be even. -/
theorem Nearest.not_lt {n n' : Nat} {y : ℚ} (h : Nearest n y) (h' : Nearest n' y) : ¬n < n' := by
  intro hlt
  have hgap : (n : ℚ) + 1 ≤ n' := by exact_mod_cast hlt
  have hbelow := (abs_le.mp h.near).2
  have habove := (abs_le.mp h'.near).1
  have htie : y - n = 1 / 2 := by linarith
  have htie' : y - n' = -(1 / 2) := by linarith
  have hnext : n' = n + 1 := by
    have : (n' : ℚ) = ((n + 1 : Nat) : ℚ) := by
      push_cast
      linarith
    exact_mod_cast this
  rcases h with h | ⟨-, heven⟩
  · rw [htie] at h
    norm_num at h
  · rcases h' with h' | ⟨-, heven'⟩
    · rw [htie'] at h'
      norm_num at h'
    · omega

theorem Nearest.unique {n n' : Nat} {y : ℚ} (h : Nearest n y) (h' : Nearest n' y) : n = n' :=
  Nat.le_antisymm (Nat.le_of_not_lt (h'.not_lt h)) (Nat.le_of_not_lt (h.not_lt h'))

theorem nearest_self (n : Nat) : Nearest n n := by
  simp [Nearest]

/-! ## A mantissa and what lies above it -/

/-- How far above the mantissa a value lies. -/
def Tells : Accuracy → ℚ → Prop
  | .exact, r => r = 0
  | .inexact .lt, r => 0 < r ∧ r < 1 / 2
  | .inexact .eq, r => r = 1 / 2
  | .inexact .gt, r => 1 / 2 < r ∧ r < 1

theorem Tells.bounds {acc : Accuracy} {r : ℚ} (h : Tells acc r) : 0 ≤ r ∧ r < 1 := by
  cases acc with
  | exact =>
    rw [show r = 0 from h]
    norm_num
  | inexact o =>
    cases o <;> simp only [Tells] at h <;> constructor <;> linarith

/-- The mantissa and its two bits stand for `y`. -/
def Shows (em : ExtendedMantissa) (y : ℚ) : Prop :=
  Tells em.accuracy (y - em.mantissa)

theorem shows_of_tells {m : Nat} {acc : Accuracy} {y : ℚ} (h : Tells acc (y - m)) :
    Shows (ExtendedMantissa.ofMantissaAndAccuracy m acc) y := by
  cases acc with
  | exact => exact h
  | inexact o => cases o <;> exact h

/-- A shift by one halves the value. -/
theorem Shows.shiftRightOne {em : ExtendedMantissa} {y : ℚ} (h : Shows em y) :
    Shows em.shiftRightOne (y / 2) := by
  obtain ⟨m, r, s⟩ := em
  have hm : (m : ℚ) = 2 * (m / 2 : Nat) + (m % 2 : Nat) := by
    exact_mod_cast (Nat.div_add_mod m 2).symm
  rcases Nat.mod_two_eq_zero_or_one m with hodd | hodd <;> rw [hodd] at hm <;>
    push_cast at hm <;> cases r <;> cases s <;>
    simp only [Shows, ExtendedMantissa.shiftRightOne, ExtendedMantissa.accuracy, Tells, hodd,
      bne_self_eq_false, Bool.or_false, Bool.or_true, Nat.reduceBNe] at h ⊢ <;>
    first
    | linarith
    | constructor <;> linarith

/-- Shifts divide the value by a power of two. -/
theorem Shows.shiftRight {em : ExtendedMantissa} {y : ℚ} (h : Shows em y) (n : Nat) :
    Shows (em >>> n) (y / 2 ^ (n : Int)) := by
  induction n with
  | zero => simpa [HShiftRight.hShiftRight, Nat.repeat] using h
  | succ n ih =>
    have hstep : em >>> (n + 1) = (em >>> n).shiftRightOne := rfl
    have hpow : y / 2 ^ ((n + 1 : Nat) : Int) = y / 2 ^ (n : Int) / 2 := by
      rw [div_div, Nat.cast_succ, zpow_add_one₀ (by norm_num)]
    rw [hstep, hpow]
    exact ih.shiftRightOne

/-- Rounding the mantissa gives the nearest whole number to the value. -/
theorem Shows.roundedMantissa {em : ExtendedMantissa} {y : ℚ} (h : Shows em y) :
    Nearest em.roundedMantissa y := by
  obtain ⟨m, r, s⟩ := em
  cases r <;> cases s <;>
    simp only [Shows, ExtendedMantissa.accuracy, Tells] at h
  case false.false =>
    -- exact
    refine Or.inl ?_
    show |y - (m : ℚ)| < 1 / 2
    rw [h, abs_zero]
    norm_num
  case false.true =>
    -- below the half
    refine Or.inl ?_
    show |y - (m : ℚ)| < 1 / 2
    rw [abs_of_pos h.1]
    exact h.2
  case true.false =>
    -- a tie
    refine Or.inr ⟨?_, ?_⟩
    · show |y - ((m + m % 2 : Nat) : ℚ)| = 1 / 2
      rcases Nat.mod_two_eq_zero_or_one m with hodd | hodd <;> rw [hodd] <;> push_cast
      · rw [add_zero, h]
        norm_num
      · rw [show y - ((m : ℚ) + 1) = -(1 / 2) by linarith]
        norm_num
    · show (m + m % 2) % 2 = 0
      omega
  case true.true =>
    -- above the half
    refine Or.inl ?_
    show |y - ((m + 1 : Nat) : ℚ)| < 1 / 2
    push_cast
    rw [abs_lt]
    constructor <;> linarith

/-! ## The whole operation -/

section

variable (spec : Format)

theorem two_pow_mantissaBits :
    2 ^ spec.mantissaBits = 2 * 2 ^ spec.mantissaBitsWithoutImplicit := by
  show 2 ^ (1 + spec.mantissaBitsWithoutImplicit) = _
  rw [Nat.pow_add, Nat.pow_one]

theorem cast_mantissaBits :
    (spec.mantissaBits : Int) = spec.mantissaBitsWithoutImplicit + 1 := by
  show ((1 + spec.mantissaBitsWithoutImplicit : Nat) : Int) = _
  push_cast
  omega

/-- A number of the format with the rounded mantissa `r` at the exponent `t`.  A mantissa that
overflowed is the next power of two. -/
def settle (s : Sign) (r : Nat) (t : Int) : UnpackedFloat :=
  if h : r = 0 then .zero s
  else if r < 2 ^ spec.mantissaBits then .finite s r t (Nat.pos_of_ne_zero h)
  else .finite s (2 ^ spec.mantissaBitsWithoutImplicit) (t + 1) (Nat.two_pow_pos _)

/-- A mantissa that is short enough is not shifted. -/
theorem shift_short {r : Nat} {t : Int} (hr : r < 2 ^ spec.mantissaBits)
    (ht : spec.minExponent ≤ t) :
    shiftToTargetExponent spec r t .exact = (⟨r, false, false⟩, t) := by
  have hlog : r.log2 < spec.mantissaBits := by
    by_cases hzero : r = 0
    · subst hzero
      have hbits := cast_mantissaBits spec
      rw [Nat.log2_zero]
      omega
    · exact (Nat.log2_lt hzero).mpr hr
  have htarget : spec.targetExponent (totalExponent r t) ≤ t := by
    simp only [Format.targetExponent, totalExponent]
    omega
  have hamount : (spec.targetExponent (totalExponent r t) - t).toNat = 0 := by omega
  simp [shiftToTargetExponent, shiftToExponent, hamount, HShiftRight.hShiftRight, Nat.repeat,
    ExtendedMantissa.ofMantissaAndAccuracy]

/-- A mantissa that overflowed is shifted by one. -/
theorem shift_carry {t : Int} (ht : spec.minExponent ≤ t) :
    shiftToTargetExponent spec (2 ^ spec.mantissaBits) t .exact =
      (⟨2 ^ spec.mantissaBitsWithoutImplicit, false, false⟩, t + 1) := by
  have htarget : spec.targetExponent (totalExponent (2 ^ spec.mantissaBits) t) = t + 1 := by
    simp only [Format.targetExponent, totalExponent, Nat.log2_two_pow]
    omega
  have hamount : (t + 1 - t).toNat = 1 := by omega
  have hhalf : 2 ^ spec.mantissaBits / 2 = 2 ^ spec.mantissaBitsWithoutImplicit := by
    rw [two_pow_mantissaBits, Nat.mul_div_cancel_left _ (by decide)]
  have heven : 2 ^ spec.mantissaBits % 2 = 0 := by
    rw [two_pow_mantissaBits, Nat.mul_mod_right]
  simp [shiftToTargetExponent, shiftToExponent, htarget, HShiftRight.hShiftRight, Nat.repeat,
    ExtendedMantissa.ofMantissaAndAccuracy, ExtendedMantissa.shiftRightOne, hhalf, heven]

end

/-- The total exponent is the position of the highest binary digit of the value. -/
theorem totalExponent_bounds {m : Nat} {e : Int} {y : ℚ} (hm : m ≠ 0)
    (hy : (m : ℚ) ≤ y / 2 ^ e ∧ y / 2 ^ e < m + 1) :
    2 ^ (totalExponent m e - 1) ≤ y ∧ y < 2 ^ totalExponent m e := by
  have hunit : (0 : ℚ) < 2 ^ e := by positivity
  have hlow : ((2 ^ m.log2 : Nat) : ℚ) ≤ m := by exact_mod_cast Nat.log2_self_le hm
  have hhigh : (m : ℚ) + 1 ≤ ((2 ^ (m.log2 + 1) : Nat) : ℚ) := by
    exact_mod_cast (Nat.lt_log2_self (n := m))
  have hsub : totalExponent m e - 1 = (m.log2 : Int) + e := by
    simp only [totalExponent]
    omega
  have hadd : totalExponent m e = ((m.log2 + 1 : Nat) : Int) + e := by
    simp only [totalExponent]
    push_cast
    omega
  constructor
  · rw [hsub, zpow_add₀ (by norm_num), zpow_natCast]
    rw [le_div_iff₀ hunit] at hy
    push_cast at hlow
    exact (mul_le_mul_of_nonneg_right hlow hunit.le).trans hy.1
  · rw [hadd, zpow_add₀ (by norm_num), zpow_natCast]
    rw [div_lt_iff₀ hunit] at hy
    push_cast at hhigh
    exact hy.2.trans_le (mul_le_mul_of_nonneg_right hhigh hunit.le)

/-- The position of the highest binary digit is determined. -/
theorem exponent_unique {y : ℚ} {T T' : Int} (h : 2 ^ (T - 1) ≤ y ∧ y < 2 ^ T)
    (h' : 2 ^ (T' - 1) ≤ y ∧ y < 2 ^ T') : T = T' := by
  have hlt : T - 1 < T' := (zpow_lt_zpow_iff_right₀ (by norm_num)).mp (h.1.trans_lt h'.2)
  have hgt : T' - 1 < T := (zpow_lt_zpow_iff_right₀ (by norm_num)).mp (h'.1.trans_lt h.2)
  omega

/-- Rounding a value whose highest binary digit is at `T`: the nearest multiple of the unit of the
format there. -/
theorem roundWithAccuracy_eq (spec : Format) (s : Sign) {m : Nat} {e T : Int} {acc : Accuracy}
    {y : ℚ} (hm : m ≠ 0) (hacc : Tells acc (y / 2 ^ e - m)) (hT : 2 ^ (T - 1) ≤ y ∧ y < 2 ^ T)
    (he : e ≤ spec.targetExponent T) :
    ∃ r, Nearest r (y / 2 ^ spec.targetExponent T) ∧
      roundWithAccuracy spec s m e acc = settle spec s r (spec.targetExponent T) := by
  have hshows := shows_of_tells hacc
  have hfloor : (m : ℚ) ≤ y / 2 ^ e ∧ y / 2 ^ e < m + 1 := by
    obtain ⟨hlow, hhigh⟩ := hacc.bounds
    constructor <;> linarith
  have htotal : totalExponent m e = T := exponent_unique (totalExponent_bounds hm hfloor) hT
  set t := spec.targetExponent T with ht
  have hamount : ((t - e).toNat : Int) = t - e := Int.toNat_of_nonneg (by omega)
  have hfirst : shiftToTargetExponent spec m e acc =
      (ExtendedMantissa.ofMantissaAndAccuracy m acc >>> (t - e).toNat, t) := by
    simp only [shiftToTargetExponent, shiftToExponent, htotal, ← ht, hamount]
    rw [add_sub_cancel]
  set em := ExtendedMantissa.ofMantissaAndAccuracy m acc >>> (t - e).toNat with hem
  have hnearest : Nearest em.roundedMantissa (y / 2 ^ t) := by
    have hvalue : y / 2 ^ t = y / 2 ^ e / 2 ^ ((t - e).toNat : Int) := by
      rw [hamount, div_div, ← zpow_add₀ (by norm_num), add_sub_cancel]
    rw [hvalue]
    exact (hshows.shiftRight _).roundedMantissa
  have hmin : spec.minExponent ≤ t := le_max_right _ _
  have hbits : em.roundedMantissa ≤ 2 ^ spec.mantissaBits := by
    have hlt : y / 2 ^ t < 2 ^ (spec.mantissaBits : Int) := by
      rw [div_lt_iff₀ (by positivity), ← zpow_add₀ (by norm_num)]
      refine hT.2.trans_le (zpow_le_zpow_right₀ (by norm_num) ?_)
      have : T - spec.mantissaBits ≤ t := le_max_left _ _
      omega
    have hnear := (abs_le.mp hnearest.near).1
    have hround : (em.roundedMantissa : ℚ) < ((2 ^ spec.mantissaBits + 1 : Nat) : ℚ) := by
      push_cast
      rw [zpow_natCast] at hlt
      linarith
    exact Nat.lt_succ_iff.mp (by exact_mod_cast hround)
  -- the second shift only sees the rounded mantissa
  have hsecond (p : ExtendedMantissa × Int)
      (hp : shiftToTargetExponent spec em.roundedMantissa t .exact = p) :
      roundWithAccuracy spec s m e acc = if h : p.1.mantissa = 0 then .zero s
        else .finite s p.1.mantissa p.2 (Nat.pos_of_ne_zero h) := by
    rw [roundWithAccuracy, hfirst, ← hp]
  refine ⟨em.roundedMantissa, hnearest, ?_⟩
  rcases Nat.lt_or_eq_of_le hbits with hshort | hcarry
  · rw [hsecond _ (shift_short spec hshort hmin), settle]
    by_cases hzero : em.roundedMantissa = 0
    · rw [dif_pos hzero, dif_pos hzero]
    · rw [dif_neg hzero, dif_neg hzero, if_pos hshort]
  · rw [hsecond _ (hcarry ▸ shift_carry spec hmin), settle, dif_neg (Nat.two_pow_pos _).ne',
      dif_neg (hcarry ▸ (Nat.two_pow_pos _).ne'), if_neg hcarry.not_lt]

end FanBoard.Rounding
