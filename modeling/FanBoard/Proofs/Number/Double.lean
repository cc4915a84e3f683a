import FanBoard.Json.Number
import FanBoard.Proofs.Number.Packing
import Mathlib.Tactic.NormNum.Pow

/-!
# Doubles and their values

`Denotes` ties a double to the positive rational number that it stands for.

* `denotes_double`, `denotes_mul` and `denotes_div` are the operations.  What comes out stands for
  the rounded value.
* `scaleTen_double` is a number of up to fifteen digits times a power of ten that is not too far
  from one.  Two roundings keep it near the exact value, and a value with a short mantissa is exact
  where the power of ten is.
-/

namespace FanBoard.Rounding

open Float.Model (Format UnpackedFloat totalExponent)
open Float.Model.UnpackedFloat
open Json (Literal)

/-- A double is positive, has a full mantissa, and stands for `y`. -/
def Denotes (v : Float) (y : ℚ) : Prop :=
  ∃ m e h, v.toModel.unpack = .finite .positive m e h ∧
    2 ^ 52 ≤ m ∧ m < 2 ^ 53 ∧ y = m * 2 ^ e

/-- Neither too large nor too small for a double with a full mantissa. -/
def InRange (y : ℚ) : Prop :=
  2 ^ (-250 : Int) ≤ y ∧ y ≤ 2 ^ (255 : Int)

theorem InRange.exponent {y : ℚ} {T : Int} (h : InRange y) (hT : 2 ^ (T - 1) ≤ y ∧ y < 2 ^ T) :
    -250 < T ∧ T ≤ 256 := by
  have hlow : -250 < T := (zpow_lt_zpow_iff_right₀ (by norm_num)).mp (h.1.trans_lt hT.2)
  have hhigh : T - 1 ≤ 255 := (zpow_le_zpow_iff_right₀ (by norm_num)).mp (hT.1.trans h.2)
  exact ⟨hlow, by omega⟩

/-- Packing what a value in range is rounded to gives a double that stands for it. -/
theorem denotes_pack {r : Nat} {T : Int} {y : ℚ} (hy : InRange y)
    (hT : 2 ^ (T - 1) ≤ y ∧ y < 2 ^ T)
    (hr : Nearest r (y / 2 ^ Format.binary64.targetExponent T)) :
    ∃ z, Denotes (.ofModel (.pack
      (settle Format.binary64 .positive r (Format.binary64.targetExponent T)))) z ∧
      Rounds Format.binary64 y z := by
  obtain ⟨hlow, hhigh⟩ := hy.exponent hT
  have hbits : (Format.binary64.mantissaBits : Int) = 53 := rfl
  have hmin : Format.binary64.minExponent = -1074 := rfl
  obtain ⟨m, e, h, hsettle, hfull, hshort, he, he', hrounds⟩ :=
    settle_normal .positive hT (by omega) hr
  rw [hbits] at he he'
  refine ⟨m * 2 ^ e, ⟨m, e, h, ?_, hfull, hshort, rfl⟩, hrounds⟩
  rw [hsettle]
  refine unpack_pack_of_full h hfull hshort (by omega) ?_
  show e + 1023 + 52 + 1 < 2048
  omega

/-- The nearest double to a natural number. -/
theorem denotes_double {n : Nat} (hn : n ≠ 0) (hrange : InRange n) :
    ∃ z, Denotes (Literal.double n) z ∧ Rounds Format.binary64 n z := by
  have hself : (n : ℚ) ≤ n / 2 ^ (0 : Int) ∧ (n : ℚ) / 2 ^ (0 : Int) < n + 1 := by
    rw [zpow_zero, div_one]
    exact ⟨le_refl _, lt_add_one _⟩
  have hT := totalExponent_bounds hn hself
  have hvalue : (n : ℚ) = n * 2 ^ (0 : Int) := by rw [zpow_zero, mul_one]
  obtain ⟨r, hr, hround⟩ := round_eq Format.binary64 .positive hn (e := 0) (by rwa [← hvalue])
  rw [← hvalue] at hr
  have hdouble : Literal.double n =
      .ofModel (.pack (UnpackedFloat.round Format.binary64 .positive n 0)) := by
    have hcompare : compare (n : Int) 0 = .gt := by
      rw [Int.compare_eq_gt]
      omega
    rw [Literal.double, Float.Model.ofNat, UnpackedFloat.ofNat, UnpackedFloat.ofInt,
      UnpackedFloat.normalize, hcompare]
    rfl
  rw [hdouble, hround]
  exact denotes_pack hrange hT hr

/-- A positive mantissa with what lies above it, rounded and packed. -/
theorem denotes_round {m : Nat} {e : Int} {acc : Accuracy} {y : ℚ} (hm : m ≠ 0)
    (hacc : Tells acc (y / 2 ^ e - m)) (hrange : InRange y)
    (he : ∀ T, 2 ^ (T - 1) ≤ y ∧ y < 2 ^ T → e ≤ T - 53) :
    ∃ z, Denotes (.ofModel (.pack (roundWithAccuracy Format.binary64 .positive m e acc))) z ∧
      Rounds Format.binary64 y z := by
  have hself : (m : ℚ) ≤ y / 2 ^ e ∧ y / 2 ^ e < m + 1 := by
    obtain ⟨hlow, hhigh⟩ := hacc.bounds
    constructor <;> linarith
  have hT := totalExponent_bounds hm hself
  obtain ⟨r, hr, hround⟩ := roundWithAccuracy_eq Format.binary64 .positive hm hacc hT
    ((he _ hT).trans (le_max_left _ _))
  rw [hround]
  exact denotes_pack hrange hT hr

/-- The product of two doubles. -/
theorem denotes_mul {v w : Float} {x y : ℚ} (hv : Denotes v x) (hw : Denotes w y)
    (hrange : InRange (x * y)) : ∃ z, Denotes (v * w) z ∧ Rounds Format.binary64 (x * y) z := by
  obtain ⟨m, e, h, hunpack, hfull, -, rfl⟩ := hv
  obtain ⟨m', e', h', hunpack', hfull', -, rfl⟩ := hw
  have hvalue : (m : ℚ) * 2 ^ e * (m' * 2 ^ e') = (m * m' : Nat) * 2 ^ (e + e') := by
    rw [zpow_add₀ (by norm_num)]
    push_cast
    ring
  have hmul : v * w = .ofModel (.pack
      (roundWithAccuracy Format.binary64 .positive (m * m') (e + e') .exact)) := by
    show Float.ofModel (.pack (UnpackedFloat.mul Format.binary64 v.toModel.unpack
      w.toModel.unpack)) = _
    rw [hunpack, hunpack']
    rfl
  rw [hmul]
  refine denotes_round (Nat.mul_ne_zero h.ne' h'.ne') ?_ hrange fun T hT => ?_
  · show _ = 0
    rw [hvalue, mul_div_cancel_right₀ _ (by positivity), sub_self]
  · -- the product of two full mantissas is long
    have hlong : ((2 ^ 104 : Nat) : ℚ) ≤ (m * m' : Nat) := by
      exact_mod_cast Nat.mul_le_mul hfull hfull'
    have hlow : (2 : ℚ) ^ (104 + (e + e')) < 2 ^ T := by
      refine lt_of_le_of_lt ?_ hT.2
      rw [hvalue, zpow_add₀ (by norm_num)]
      refine mul_le_mul_of_nonneg_right (le_trans (le_of_eq ?_) hlong) (by positivity)
      norm_num
    have := (zpow_lt_zpow_iff_right₀ (by norm_num)).mp hlow
    omega

/-- What lies above the quotient of two whole numbers. -/
theorem tells_accuracyOfFraction (a : Nat) {b : Nat} (hb : 0 < b) :
    Tells (accuracyOfFraction (a % b) b) ((a : ℚ) / b - (a / b : Nat)) := by
  have hb' : (0 : ℚ) < b := by exact_mod_cast hb
  have hrest : (a : ℚ) / b - (a / b : Nat) = (a % b : Nat) / b := by
    have hdivmod : (a : ℚ) = b * (a / b : Nat) + (a % b : Nat) := by
      exact_mod_cast (Nat.div_add_mod a b).symm
    rw [eq_div_iff hb'.ne', sub_mul, div_mul_cancel₀ _ hb'.ne']
    linarith
  have hlt := Nat.mod_lt a hb
  rw [hrest, accuracyOfFraction]
  by_cases hzero : a % b = 0
  · rw [if_pos hzero, hzero]
    show _ = 0
    simp
  · rw [if_neg hzero]
    have hpos : (0 : ℚ) < (a % b : Nat) := by exact_mod_cast Nat.pos_of_ne_zero hzero
    have hone : ((a % b : Nat) : ℚ) / b < 1 := by
      rw [div_lt_one hb']
      exact_mod_cast hlt
    rcases lt_trichotomy (2 * (a % b)) b with h | h | h
    · rw [Nat.compare_eq_lt.mpr h]
      refine ⟨div_pos hpos hb', ?_⟩
      rw [div_lt_iff₀ hb']
      have : (2 : ℚ) * (a % b : Nat) < b := by exact_mod_cast h
      linarith
    · rw [Nat.compare_eq_eq.mpr h]
      show _ = 1 / 2
      rw [div_eq_iff hb'.ne']
      have : (2 : ℚ) * (a % b : Nat) = b := by exact_mod_cast h
      linarith
    · rw [Nat.compare_eq_gt.mpr h]
      refine ⟨?_, hone⟩
      rw [lt_div_iff₀ hb']
      have : (b : ℚ) < 2 * (a % b : Nat) := by exact_mod_cast h
      linarith

/-- The quotient of two doubles. -/
theorem denotes_div {v w : Float} {x y : ℚ} (hv : Denotes v x) (hw : Denotes w y)
    (hrange : InRange (x / y)) : ∃ z, Denotes (v / w) z ∧ Rounds Format.binary64 (x / y) z := by
  obtain ⟨m, e, h, hunpack, hfull, hshort, rfl⟩ := hv
  obtain ⟨m', e', h', hunpack', hfull', hshort', rfl⟩ := hw
  have hm' : (0 : ℚ) < m' := by exact_mod_cast h'
  have hvalue : (m : ℚ) * 2 ^ e / (m' * 2 ^ e') = m / m' * 2 ^ (e - e') := by
    rw [zpow_sub₀ (by norm_num)]
    field_simp
  have hlow : (1 : ℚ) / 2 < m / m' := by
    rw [lt_div_iff₀ hm']
    have : (m' : ℚ) < 2 * m := by exact_mod_cast (by omega : m' < 2 * m)
    linarith
  have hhigh : (m : ℚ) / m' < 2 := by
    rw [div_lt_iff₀ hm']
    exact_mod_cast (by omega : m < 2 * m')
  rw [hvalue] at hrange ⊢
  -- the quotient of the mantissas is near one, so the exponents tell the range
  have hexponent : -251 < e - e' := by
    have hlt : (2 : ℚ) ^ (-250 : Int) < 2 ^ (1 + (e - e')) := by
      refine hrange.1.trans_lt ?_
      rw [zpow_one_add₀ (by norm_num)]
      exact mul_lt_mul_of_pos_right hhigh (by positivity)
    have := (zpow_lt_zpow_iff_right₀ (by norm_num)).mp hlt
    omega
  have hlog : m.log2 = 52 := @log2_of_full Format.binary64 m hfull hshort
  have hlog' : m'.log2 = 52 := @log2_of_full Format.binary64 m' hfull' hshort'
  have htarget : min (e - e') (Format.binary64.targetExponent
      (totalExponent m e - totalExponent m' e')) = e - e' - 53 := by
    have hbits : (Format.binary64.mantissaBits : Int) = 53 := rfl
    have hmin : Format.binary64.minExponent = -1074 := rfl
    rw [Format.targetExponent, totalExponent, totalExponent, hlog, hlog', hbits, hmin]
    omega
  have hcore : divCore Format.binary64 m e m' e' =
      (m * 2 ^ 53 / m', e - e' - 53, accuracyOfFraction (m * 2 ^ 53 % m') m') := by
    rw [divCore]
    simp only [htarget]
    rw [show (e - e' - (e - e' - 53)).toNat = 53 by omega, Nat.shiftLeft_eq]
  have hdiv : v / w = .ofModel (.pack (roundWithAccuracy Format.binary64 .positive
      (m * 2 ^ 53 / m') (e - e' - 53) (accuracyOfFraction (m * 2 ^ 53 % m') m'))) := by
    show Float.ofModel (.pack (UnpackedFloat.div Format.binary64 v.toModel.unpack
      w.toModel.unpack)) = _
    rw [hunpack, hunpack', UnpackedFloat.div]
    simp only [hcore]
    rfl
  rw [hdiv]
  refine denotes_round ?_ ?_ hrange fun T hT => ?_
  · exact (Nat.div_pos (by omega) h').ne'
  · have hscaled : (m : ℚ) / m' * 2 ^ (e - e') / 2 ^ (e - e' - 53) = (m * 2 ^ 53 : Nat) / m' := by
      rw [zpow_sub₀ (by norm_num) (e - e')]
      field_simp
      norm_num
    rw [hscaled]
    exact tells_accuracyOfFraction _ h'
  · have hlt : (2 : ℚ) ^ (e - e' - 1) < 2 ^ T := by
      refine lt_trans ?_ hT.2
      rw [zpow_sub_one₀ (by norm_num), mul_comm]
      exact mul_lt_mul_of_pos_right (by linarith) (by positivity)
    have := (zpow_lt_zpow_iff_right₀ (by norm_num)).mp hlt
    omega

/-! ## Multiplying by a power of ten -/

theorem Denotes.isInf {v : Float} {y : ℚ} (h : Denotes v y) : v.isInf = false := by
  obtain ⟨m, e, hm, hunpack, -⟩ := h
  show v.toModel.unpack.isInf = false
  rw [hunpack]
  rfl

/-- The distance after rounding twice, first the power `p` to `p'` and then the product. -/
theorem near_mul {d p p' z : ℚ} (hd : 0 < d) (hp : 0 < p) (hp' : Rounds Format.binary64 p p')
    (hz : Rounds Format.binary64 (d * p') z) : |z - d * p| ≤ d * p * (3 / 2 ^ 53) := by
  have hfirst := abs_le.mp hp'.near
  have hsecond := abs_le.mp hz.near
  rw [show (Format.binary64.mantissaBits : Int) = 53 from rfl] at hfirst hsecond
  have hproduct : d * p' - d * p ≤ d * p / 2 ^ 53 ∧ -(d * p / 2 ^ 53) ≤ d * p' - d * p := by
    constructor
    · calc d * p' - d * p = d * (p' - p) := by ring
        _ ≤ d * (p / 2 ^ 53) := mul_le_mul_of_nonneg_left hfirst.2 hd.le
        _ = d * p / 2 ^ 53 := by ring
    · calc -(d * p / 2 ^ 53) = d * -(p / 2 ^ 53) := by ring
        _ ≤ d * (p' - p) := mul_le_mul_of_nonneg_left hfirst.1 hd.le
        _ = d * p' - d * p := by ring
  have hpos : 0 < d * p := mul_pos hd hp
  norm_num at hsecond hproduct ⊢
  rw [abs_le]
  constructor <;> linarith

/-- The distance after rounding twice, first the power `p` to `p'` and then the quotient. -/
theorem near_div {d p p' z : ℚ} (hd : 0 < d) (hp : 0 < p) (hp' : Rounds Format.binary64 p p')
    (hz : Rounds Format.binary64 (d / p') z) : |z - d / p| ≤ d / p * (3 / 2 ^ 53) := by
  have hfirst := abs_le.mp hp'.near
  have hsecond := abs_le.mp hz.near
  rw [show (Format.binary64.mantissaBits : Int) = 53 from rfl] at hfirst hsecond
  norm_num at hfirst hsecond
  have hpos' : 0 < p' := by linarith
  have hquotient : 0 < d / p := div_pos hd hp
  have hscale : d / p' = d / p * (p / p') := by field_simp
  have hratio : p / p' ≤ 1 + 5 / 4 / 2 ^ 53 ∧ 1 - 5 / 4 / 2 ^ 53 ≤ p / p' := by
    rw [div_le_iff₀ hpos', le_div_iff₀ hpos']
    norm_num
    constructor <;> linarith
  have hproduct : d / p' ≤ d / p * (1 + 5 / 4 / 2 ^ 53) ∧
      d / p * (1 - 5 / 4 / 2 ^ 53) ≤ d / p' := by
    rw [hscale]
    exact ⟨mul_le_mul_of_nonneg_left hratio.1 hquotient.le,
      mul_le_mul_of_nonneg_left hratio.2 hquotient.le⟩
  norm_num at hproduct ⊢
  rw [abs_le]
  constructor <;> linarith

theorem cast_tenTo (j : Nat) : ((tenTo j : Nat) : ℚ) = 10 ^ j := by
  rw [show tenTo j = 10 ^ j from rfl]
  push_cast
  rfl

/-- The double for a power of ten, and the power itself where it is not too large. -/
theorem denotes_tenTo {j : Nat} (hj : j ≤ 60) :
    ∃ p, Denotes (Literal.double (tenTo j)) p ∧ Rounds Format.binary64 (10 ^ j) p ∧
      1 / 2 ≤ p ∧ p ≤ 2 ^ 201 ∧ (j ≤ 22 → p = 10 ^ j) := by
  have hlow : (1 : ℚ) ≤ 10 ^ j := one_le_pow₀ (by norm_num)
  have hhigh : (10 : ℚ) ^ j ≤ 2 ^ 200 :=
    calc (10 : ℚ) ^ j ≤ 10 ^ 60 := pow_le_pow_right₀ (by norm_num) hj
      _ ≤ 2 ^ 200 := by norm_num
  have hrange : InRange ((tenTo j : Nat) : ℚ) := by
    rw [cast_tenTo]
    exact ⟨le_trans (by norm_num) hlow, hhigh.trans (by norm_num)⟩
  have hne : tenTo j ≠ 0 := (Nat.pow_pos (by decide)).ne'
  obtain ⟨p, hp, hrounds⟩ := denotes_double hne hrange
  rw [cast_tenTo] at hrounds
  have hnear := abs_le.mp hrounds.near
  rw [show (Format.binary64.mantissaBits : Int) = 53 from rfl] at hnear
  norm_num at hnear hhigh
  refine ⟨p, hp, hrounds, by linarith, ?_, fun hsmall => ?_⟩
  · norm_num
    linarith
  · -- the odd part of the power is short
    refine hrounds.exact (5 ^ j) j ?_ ?_
    · calc 5 ^ j ≤ 5 ^ 22 := Nat.pow_le_pow_right (by decide) hsmall
        _ < 2 ^ 53 := by norm_num
    · push_cast
      rw [zpow_natCast, ← mul_pow]
      norm_num

/-- A number with a short mantissa is a double itself. -/
theorem denotes_short {d : Nat} (hd : d ≠ 0) (hshort : d < 2 ^ 53) :
    Denotes (Literal.double d) d ∧ (1 : ℚ) ≤ d ∧ (d : ℚ) ≤ 2 ^ 53 := by
  have hone : (1 : ℚ) ≤ d := by exact_mod_cast Nat.one_le_iff_ne_zero.mpr hd
  have hmax : (d : ℚ) ≤ 2 ^ 53 := by exact_mod_cast hshort.le
  obtain ⟨x, hx, hround⟩ := denotes_double hd
    ⟨le_trans (by norm_num) hone, hmax.trans (by norm_num)⟩
  obtain rfl : x = d := hround.exact d 0 hshort (by rw [zpow_zero, mul_one])
  exact ⟨hx, hone, hmax⟩

/-- A number times a power of ten, by one multiplication or division. -/
def scaled (d : Nat) (k : Int) : Float :=
  if 0 ≤ k then Literal.double d * Literal.double (tenTo k.toNat)
  else Literal.double d / Literal.double (tenTo (-k).toNat)

/-- `z` comes out for `d * 10 ^ k`.  It is near the exact value, and is this value where both the
power and the value are exact. -/
structure ScalesTo (d : Nat) (k : Int) (z : ℚ) : Prop where
  near : |z - d * 10 ^ k| ≤ d * 10 ^ k * (3 / 2 ^ 53)
  exact : -22 ≤ k ∧ k ≤ 22 → ∀ (n : Nat) (j : Int), n < 2 ^ 53 → (d : ℚ) * 10 ^ k = n * 2 ^ j →
    z = d * 10 ^ k

/-- The power is not negative: a product. -/
theorem scaled_mul {d j : Nat} (hd : d ≠ 0) (hshort : d < 2 ^ 53) (hj : j ≤ 60) :
    ∃ z, Denotes (Literal.double d * Literal.double (tenTo j)) z ∧ ScalesTo d j z := by
  obtain ⟨hx, hone, hmax⟩ := denotes_short hd hshort
  obtain ⟨p, hp, hpow, hlow, hhigh, hsmall⟩ := denotes_tenTo hj
  have hvalue : (d : ℚ) * 10 ^ (j : Int) = d * 10 ^ j := by rw [zpow_natCast]
  have hrange : InRange (d * p) := by
    constructor
    · calc (2 : ℚ) ^ (-250 : Int) ≤ 1 * (1 / 2) := by norm_num
        _ ≤ d * p := by gcongr
    · calc (d : ℚ) * p ≤ 2 ^ 53 * 2 ^ 201 := by gcongr
        _ ≤ 2 ^ (255 : Int) := by norm_num
  obtain ⟨z, hz, hround⟩ := denotes_mul hx hp hrange
  refine ⟨z, hz, ?_, ?_⟩ <;> rw [hvalue]
  · exact near_mul (by linarith) (by positivity) hpow hround
  · intro hk n i hn hexact
    rw [hsmall (by omega)] at hround
    exact hround.exact n i hn hexact

/-- The power is negative: a quotient. -/
theorem scaled_div {d j : Nat} (hd : d ≠ 0) (hshort : d < 2 ^ 53) (hj : j ≤ 60) :
    ∃ z, Denotes (Literal.double d / Literal.double (tenTo j)) z ∧ ScalesTo d (-j) z := by
  obtain ⟨hx, hone, hmax⟩ := denotes_short hd hshort
  obtain ⟨p, hp, hpow, hlow, hhigh, hsmall⟩ := denotes_tenTo hj
  have hvalue : (d : ℚ) * 10 ^ (-j : Int) = d / 10 ^ j := by
    rw [zpow_neg, zpow_natCast, div_eq_mul_inv]
  have hrange : InRange (d / p) := by
    constructor
    · rw [le_div_iff₀ (by linarith)]
      calc (2 : ℚ) ^ (-250 : Int) * p ≤ 2 ^ (-250 : Int) * 2 ^ 201 := by gcongr
        _ ≤ 1 := by norm_num
        _ ≤ d := hone
    · rw [div_le_iff₀ (by linarith)]
      calc (d : ℚ) ≤ 2 ^ 53 := hmax
        _ ≤ 2 ^ (255 : Int) * (1 / 2) := by norm_num
        _ ≤ 2 ^ (255 : Int) * p := by gcongr
  obtain ⟨z, hz, hround⟩ := denotes_div hx hp hrange
  refine ⟨z, hz, ?_, ?_⟩ <;> rw [hvalue]
  · exact near_div (by linarith) (by positivity) hpow hround
  · intro hk n i hn hexact
    rw [hsmall (by omega)] at hround
    exact hround.exact n i hn hexact

/-- A number with a short mantissa times a power of ten that is not too far from one. -/
theorem scaleTen_double {d : Nat} {k : Int} (hd : d ≠ 0) (hshort : d < 2 ^ 53)
    (hk : -60 ≤ k ∧ k ≤ 60) :
    ∃ z, Literal.scaleTen (Literal.double d) k = some (scaled d k) ∧ Denotes (scaled d k) z ∧
      ScalesTo d k z := by
  rw [Literal.scaleTen, if_pos (by omega), scaled]
  by_cases hsign : 0 ≤ k
  · obtain ⟨j, rfl⟩ := Int.eq_ofNat_of_zero_le hsign
    obtain ⟨z, hz, hscales⟩ := scaled_mul hd hshort (j := j) (by omega)
    rw [if_pos hsign, if_pos hsign, Int.toNat_natCast]
    exact ⟨z, by simp only [hz.isInf, Bool.false_eq_true, if_false], hz, hscales⟩
  · obtain ⟨j, hj⟩ := Int.eq_ofNat_of_zero_le (by omega : 0 ≤ -k)
    obtain rfl : k = -j := by omega
    obtain ⟨z, hz, hscales⟩ := scaled_div hd hshort (j := j) (by omega)
    rw [if_neg hsign, if_neg hsign, neg_neg, Int.toNat_natCast]
    exact ⟨z, rfl, hz, hscales⟩

end FanBoard.Rounding
