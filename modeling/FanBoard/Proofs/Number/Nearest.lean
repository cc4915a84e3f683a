import FanBoard.Proofs.Number.Rounding

/-!
# What rounds to a number of the format

`Rounding.settle` gives the number of a format for a nearest whole number.  This file says which
values are rounded to a given number, and how far a value lies from the number that it is rounded
to.

* `Canonical` are the mantissas and exponents of the positive numbers of a format.
* `Catches` says that a value lies in the interval around a number, and `round_of_catches` that it
  is rounded to this number.
* `Rounds` bounds the distance between a value and what it is rounded to.  A value that the format
  has is rounded to itself.  `settle_normal` proves this of values that are not too small.
-/

namespace FanBoard.Rounding

open Float.Model (Format UnpackedFloat totalExponent)
open Float.Model.UnpackedFloat

variable (spec : Format)

/-- The mantissa and the exponent of a positive number of the format, whatever the greatest exponent
is. -/
structure Canonical (m : Nat) (e : Int) : Prop where
  pos : 0 < m
  short : m < 2 ^ spec.mantissaBits
  bounded : spec.minExponent ≤ e
  full : 2 ^ spec.mantissaBitsWithoutImplicit ≤ m ∨ e = spec.minExponent

/-- The value lies in the interval around a number: at most half a unit away, a tie only for an even
mantissa.  Below a power of two the unit is half as long. -/
structure Catches (m : Nat) (e : Int) (y : ℚ) : Prop where
  above : y - m * 2 ^ e ≤ 2 ^ e / 2
  below : m * 2 ^ e - y ≤ 2 ^ e / 2
  tie : |y - m * 2 ^ e| = 2 ^ e / 2 → m % 2 = 0
  dense : m = 2 ^ spec.mantissaBitsWithoutImplicit → spec.minExponent < e →
    m * 2 ^ e - y ≤ 2 ^ e / 4

variable {spec}

/-- In units of the number, the value is nearest to the mantissa. -/
theorem Catches.nearest {m : Nat} {e : Int} {y : ℚ} (h : Catches spec m e y) :
    Nearest m (y / 2 ^ e) := by
  have hunit : (0 : ℚ) < 2 ^ e := by positivity
  have hscaled : |y / 2 ^ e - m| * 2 ^ e = |y - m * 2 ^ e| := by
    rw [← abs_of_pos hunit, ← abs_mul, abs_of_pos hunit, sub_mul, div_mul_cancel₀ _ hunit.ne']
  have hle : |y - m * 2 ^ e| ≤ 2 ^ e / 2 := abs_le.mpr ⟨by linarith [h.below], h.above⟩
  rcases hle.lt_or_eq with hlt | heq
  · refine Or.inl ?_
    rw [← hscaled] at hlt
    exact lt_of_mul_lt_mul_right (by linarith) hunit.le
  · refine Or.inr ⟨?_, h.tie heq⟩
    rw [← hscaled] at heq
    exact mul_right_cancel₀ hunit.ne' (by linarith)

/-- The value is below the next power of two. -/
theorem Catches.lt {m : Nat} {e : Int} {y : ℚ} (hc : Canonical spec m e)
    (h : Catches spec m e y) : y < 2 ^ (e + spec.mantissaBits) := by
  have hshort : (m : ℚ) + 1 ≤ 2 ^ (spec.mantissaBits : Int) := by
    rw [zpow_natCast]
    exact_mod_cast hc.short
  have hunit : (0 : ℚ) < 2 ^ e := by positivity
  have habove := h.above
  rw [zpow_add₀ (by norm_num), mul_comm]
  nlinarith

/-- The usual case: the unit of the format at the value is the unit of the number. -/
theorem Catches.settle_same {s : Sign} {m r : Nat} {e T : Int} {y : ℚ} (hc : Canonical spec m e)
    (h : Catches spec m e y) (htarget : spec.targetExponent T = e)
    (hr : Nearest r (y / 2 ^ spec.targetExponent T)) :
    settle spec s r (spec.targetExponent T) = .finite s m e hc.pos := by
  rw [htarget] at hr ⊢
  obtain rfl : r = m := hr.unique h.nearest
  rw [settle, dif_neg hc.pos.ne', if_pos hc.short]

/-- Below a power of two the unit is half as long, and the mantissa overflows. -/
theorem Catches.settle_below {s : Sign} {m r : Nat} {e T : Int} {y : ℚ} (hc : Canonical spec m e)
    (h : Catches spec m e y) (hm : m = 2 ^ spec.mantissaBitsWithoutImplicit)
    (hmin : spec.minExponent < e) (hlt : y < m * 2 ^ e) (htarget : spec.targetExponent T = e - 1)
    (hr : Nearest r (y / 2 ^ spec.targetExponent T)) :
    settle spec s r (spec.targetExponent T) = .finite s m e hc.pos := by
  rw [htarget] at hr ⊢
  have hunit : (0 : ℚ) < 2 ^ (e - 1) := by positivity
  have hdouble : (2 : ℚ) ^ e = 2 * 2 ^ (e - 1) := by
    rw [← zpow_one_add₀ (by norm_num), add_sub_cancel]
  have hcarry : ((2 ^ spec.mantissaBits : Nat) : ℚ) = 2 * m := by
    rw [hm, two_pow_mantissaBits]
    push_cast
    rfl
  have hdense := h.dense hm hmin
  rw [hdouble] at hdense hlt
  have hgap : |y / 2 ^ (e - 1) - ((2 ^ spec.mantissaBits : Nat) : ℚ)| ≤ 1 / 2 := by
    rw [hcarry, abs_le]
    constructor
    · rw [neg_le_sub_iff_le_add, ← sub_le_iff_le_add, le_div_iff₀ hunit]
      linarith
    · rw [sub_le_iff_le_add, div_le_iff₀ hunit]
      linarith
  have hnearest : Nearest (2 ^ spec.mantissaBits) (y / 2 ^ (e - 1)) := by
    rcases hgap.lt_or_eq with hlt | heq
    · exact Or.inl hlt
    · exact Or.inr ⟨heq, by rw [two_pow_mantissaBits, Nat.mul_mod_right]⟩
  obtain rfl : r = 2 ^ spec.mantissaBits := hr.unique hnearest
  subst hm
  rw [settle, dif_neg (Nat.two_pow_pos _).ne', if_neg (Nat.lt_irrefl _), sub_add_cancel]

/-- A value in the interval has fewer binary digits than the number only where the number is a power
of two, and then it has one digit less. -/
theorem Catches.of_lt_power {m : Nat} {e : Int} {y : ℚ} (hc : Canonical spec m e)
    (h : Catches spec m e y) (hmin : spec.minExponent < e)
    (hlt : y < 2 ^ (e + spec.mantissaBitsWithoutImplicit)) :
    m = 2 ^ spec.mantissaBitsWithoutImplicit ∧
      2 ^ (e + spec.mantissaBitsWithoutImplicit - 1) < y := by
  have hunit : (0 : ℚ) < 2 ^ e := by positivity
  have hone : (1 : ℚ) ≤ ((2 ^ spec.mantissaBitsWithoutImplicit : Nat) : ℚ) := by
    exact_mod_cast Nat.one_le_two_pow
  have hpower : (2 : ℚ) ^ (e + spec.mantissaBitsWithoutImplicit) =
      ((2 ^ spec.mantissaBitsWithoutImplicit : Nat) : ℚ) * 2 ^ e := by
    rw [zpow_add₀ (by norm_num), zpow_natCast, mul_comm]
    push_cast
    rfl
  have hm : m = 2 ^ spec.mantissaBitsWithoutImplicit := by
    refine Nat.le_antisymm (Nat.lt_succ_iff.mp ?_) (hc.full.resolve_right hmin.ne')
    have hbelow := h.below
    have hnext : (m : ℚ) < ((2 ^ spec.mantissaBitsWithoutImplicit + 1 : Nat) : ℚ) := by
      rw [hpower] at hlt
      push_cast at hlt ⊢
      nlinarith
    exact_mod_cast hnext
  have hdense := h.dense hm hmin
  rw [hm] at hdense
  refine ⟨hm, ?_⟩
  rw [zpow_sub_one₀ (by norm_num), hpower]
  nlinarith

/-- What lies in the interval around a number is rounded to it. -/
theorem Catches.settle_eq {s : Sign} {m r : Nat} {e T : Int} {y : ℚ} (hc : Canonical spec m e)
    (h : Catches spec m e y) (hT : 2 ^ (T - 1) ≤ y ∧ y < 2 ^ T)
    (hr : Nearest r (y / 2 ^ spec.targetExponent T)) :
    settle spec s r (spec.targetExponent T) = .finite s m e hc.pos := by
  have hbits := cast_mantissaBits spec
  have hle : T - 1 < e + spec.mantissaBits :=
    (zpow_lt_zpow_iff_right₀ (by norm_num)).mp (hT.1.trans_lt (h.lt hc))
  have hbounded := hc.bounded
  by_cases hsame : e = spec.minExponent ∨ e + spec.mantissaBits ≤ T
  · refine h.settle_same hc ?_ hr
    rw [Format.targetExponent]
    omega
  · have hmin : spec.minExponent < e := by omega
    have hlt : y < 2 ^ (e + spec.mantissaBitsWithoutImplicit) :=
      hT.2.trans_le (zpow_le_zpow_right₀ (by norm_num) (by omega))
    obtain ⟨hm, hlow⟩ := h.of_lt_power hc hmin hlt
    have hT' : e + spec.mantissaBitsWithoutImplicit - 1 < T :=
      (zpow_lt_zpow_iff_right₀ (by norm_num)).mp (hlow.trans hT.2)
    refine h.settle_below hc hm hmin ?_ ?_ hr
    · rw [hm]
      push_cast
      rwa [zpow_add₀ (by norm_num), zpow_natCast, mul_comm] at hlt
    · rw [Format.targetExponent]
      omega

/-- Rounding any mantissa at any exponent. -/
theorem round_eq (spec : Format) (s : Sign) {m : Nat} {e T : Int} (hm : m ≠ 0)
    (hT : 2 ^ (T - 1) ≤ (m : ℚ) * 2 ^ e ∧ (m : ℚ) * 2 ^ e < 2 ^ T) :
    ∃ r, Nearest r (m * 2 ^ e / 2 ^ spec.targetExponent T) ∧
      UnpackedFloat.round spec s m e = settle spec s r (spec.targetExponent T) := by
  have hself : (m : ℚ) ≤ m * 2 ^ e / 2 ^ e ∧ (m : ℚ) * 2 ^ e / 2 ^ e < m + 1 := by
    rw [mul_div_cancel_right₀ _ (by positivity)]
    exact ⟨le_refl _, lt_add_one _⟩
  have htotal : totalExponent m e = T := exponent_unique (totalExponent_bounds hm hself) hT
  have hround : UnpackedFloat.round spec s m e =
      roundWithAccuracy spec s (m <<< (e - spec.targetExponent T).toNat)
        (e - (e - spec.targetExponent T).toNat) .exact := by
    rw [UnpackedFloat.round, htotal]
    rfl
  rw [hround]
  refine roundWithAccuracy_eq spec s ?_ ?_ hT (by omega)
  · rw [Nat.shiftLeft_eq]
    exact Nat.mul_ne_zero hm (Nat.two_pow_pos _).ne'
  · -- the shift only changes how the value is written
    show _ = 0
    rw [zpow_sub₀ (by norm_num), Nat.shiftLeft_eq, zpow_natCast]
    push_cast
    field_simp
    ring

/-- A mantissa and an exponent whose value lies in the interval around a number are rounded to this
number. -/
theorem round_of_catches (s : Sign) {m m' : Nat} {e e' : Int} (hm' : m' ≠ 0)
    (hc : Canonical spec m e) (h : Catches spec m e (m' * 2 ^ e')) :
    UnpackedFloat.round spec s m' e' = .finite s m e hc.pos := by
  have hself : (m' : ℚ) ≤ m' * 2 ^ e' / 2 ^ e' ∧ (m' : ℚ) * 2 ^ e' / 2 ^ e' < m' + 1 := by
    rw [mul_div_cancel_right₀ _ (by positivity)]
    exact ⟨le_refl _, lt_add_one _⟩
  have hT := totalExponent_bounds hm' hself
  obtain ⟨r, hr, hround⟩ := round_eq spec s hm' hT
  rw [hround]
  exact h.settle_eq hc hT hr

/-! ## The distance to what a value is rounded to -/

/-- `z` is what `y` is rounded to.  With a mantissa of `p` bits the distance is at most `2 ^ -p` of
the value, and a value that is written with a mantissa of `p` bits stays. -/
structure Rounds (spec : Format) (y z : ℚ) : Prop where
  near : |z - y| ≤ y / 2 ^ (spec.mantissaBits : Int)
  exact : ∀ (n : Nat) (j : Int), n < 2 ^ spec.mantissaBits → y = n * 2 ^ j → z = y

/-- The nearest whole number of units, where the unit leaves the value `p` bits. -/
theorem rounds_of_nearest {r : Nat} {T : Int} {y : ℚ} (hT : 2 ^ (T - 1) ≤ y ∧ y < 2 ^ T)
    (hr : Nearest r (y / 2 ^ (T - spec.mantissaBits))) :
    Rounds spec y (r * 2 ^ (T - spec.mantissaBits)) := by
  set t := T - spec.mantissaBits with ht
  have hunit : (0 : ℚ) < 2 ^ t := by positivity
  have hself : y = y / 2 ^ t * 2 ^ t := (div_mul_cancel₀ _ hunit.ne').symm
  constructor
  case near =>
    have hdistance : |(r : ℚ) * 2 ^ t - y| = |y / 2 ^ t - r| * 2 ^ t := by
      rw [← abs_of_pos hunit, ← abs_mul, abs_of_pos hunit, sub_mul, div_mul_cancel₀ _ hunit.ne',
        abs_sub_comm]
    have hhalf : (2 : ℚ) ^ t / 2 = 2 ^ (T - 1) / 2 ^ (spec.mantissaBits : Int) := by
      rw [← zpow_sub₀ (by norm_num), div_eq_mul_inv, ← zpow_sub_one₀ (by norm_num)]
      congr 1
      omega
    calc |(r : ℚ) * 2 ^ t - y| = |y / 2 ^ t - r| * 2 ^ t := hdistance
      _ ≤ 1 / 2 * 2 ^ t := mul_le_mul_of_nonneg_right hr.near hunit.le
      _ = 2 ^ (T - 1) / 2 ^ (spec.mantissaBits : Int) := by rw [← hhalf]; ring
      _ ≤ y / 2 ^ (spec.mantissaBits : Int) := div_le_div_of_nonneg_right hT.1 (by positivity)
  case exact =>
    intro n j hn hy
    -- the unit divides the value
    have hlt : (2 : ℚ) ^ (T - 1) < 2 ^ ((spec.mantissaBits : Int) + j) := by
      refine hT.1.trans_lt ?_
      rw [hy, zpow_add₀ (by norm_num), zpow_natCast]
      exact mul_lt_mul_of_pos_right (by exact_mod_cast hn) (by positivity)
    have hj : t ≤ j := by
      have := (zpow_lt_zpow_iff_right₀ (by norm_num)).mp hlt
      omega
    have hwhole : y / 2 ^ t = ((n * 2 ^ (j - t).toNat : Nat) : ℚ) := by
      have hamount : ((j - t).toNat : Int) = j - t := Int.toNat_of_nonneg (by omega)
      push_cast
      rw [hy, ← zpow_natCast, hamount, mul_div_assoc, ← zpow_sub₀ (by norm_num)]
    rw [hwhole] at hr
    obtain rfl := hr.unique (nearest_self _)
    rw [← hwhole, ← hself]

/-- What comes out for a value that is not too small. -/
theorem settle_normal (s : Sign) {r : Nat} {T : Int} {y : ℚ}
    (hT : 2 ^ (T - 1) ≤ y ∧ y < 2 ^ T) (hmin : spec.minExponent ≤ T - spec.mantissaBits)
    (hr : Nearest r (y / 2 ^ spec.targetExponent T)) :
    ∃ m e h, settle spec s r (spec.targetExponent T) = .finite s m e h ∧
      2 ^ spec.mantissaBitsWithoutImplicit ≤ m ∧ m < 2 ^ spec.mantissaBits ∧
      T - spec.mantissaBits ≤ e ∧ e ≤ T - spec.mantissaBits + 1 ∧ Rounds spec y (m * 2 ^ e) := by
  have htarget : spec.targetExponent T = T - spec.mantissaBits := max_eq_left hmin
  rw [htarget] at hr ⊢
  have hrounds := rounds_of_nearest hT hr
  set t := T - spec.mantissaBits with ht
  have hunit : (0 : ℚ) < 2 ^ t := by positivity
  have hbits := cast_mantissaBits spec
  have hnear := abs_le.mp hr.near
  -- the mantissa has `p` bits, or is the next power of two
  have hlow : 2 ^ spec.mantissaBitsWithoutImplicit ≤ r := by
    have hunits : (2 : ℚ) ^ (spec.mantissaBitsWithoutImplicit : Int) ≤ y / 2 ^ t := by
      rw [le_div_iff₀ hunit, ← zpow_add₀ (by norm_num)]
      exact (zpow_le_zpow_right₀ (by norm_num) (by omega)).trans hT.1
    have hlt : ((2 ^ spec.mantissaBitsWithoutImplicit : Nat) : ℚ) < r + 1 := by
      rw [zpow_natCast] at hunits
      push_cast
      linarith
    exact Nat.lt_succ_iff.mp (by exact_mod_cast hlt)
  have hhigh : r ≤ 2 ^ spec.mantissaBits := by
    have hunits : y / 2 ^ t < (2 : ℚ) ^ (spec.mantissaBits : Int) := by
      rw [div_lt_iff₀ hunit, ← zpow_add₀ (by norm_num)]
      exact hT.2.trans_le (zpow_le_zpow_right₀ (by norm_num) (by omega))
    have hlt : (r : ℚ) < ((2 ^ spec.mantissaBits + 1 : Nat) : ℚ) := by
      rw [zpow_natCast] at hunits
      push_cast
      linarith
    exact Nat.lt_succ_iff.mp (by exact_mod_cast hlt)
  have hpos : r ≠ 0 := (lt_of_lt_of_le (Nat.two_pow_pos _) hlow).ne'
  rcases Nat.lt_or_eq_of_le hhigh with hshort | rfl
  · exact ⟨r, t, Nat.pos_of_ne_zero hpos, by rw [settle, dif_neg hpos, if_pos hshort], hlow, hshort,
      by omega, by omega, hrounds⟩
  · refine ⟨2 ^ spec.mantissaBitsWithoutImplicit, t + 1, Nat.two_pow_pos _,
      by rw [settle, dif_neg hpos, if_neg (Nat.lt_irrefl _)], le_refl _,
      Nat.pow_lt_pow_right (by norm_num) (by omega), by omega, by omega, ?_⟩
    have hcarry : ((2 ^ spec.mantissaBitsWithoutImplicit : Nat) : ℚ) * 2 ^ (t + 1) =
        ((2 ^ spec.mantissaBits : Nat) : ℚ) * 2 ^ t := by
      rw [two_pow_mantissaBits, zpow_add_one₀ (by norm_num)]
      push_cast
      ring
    rw [hcarry]
    exact hrounds

end FanBoard.Rounding
