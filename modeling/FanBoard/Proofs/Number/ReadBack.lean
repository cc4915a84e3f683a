import FanBoard.Proofs.Number.Double
import FanBoard.Proofs.Number.Halfway

/-!
# The shortest decimal reads back

A single is written as its shortest decimal, and the decimal is read to a double and then to a
single.  The two roundings do not lose the single.

* `sameSide_of_apart`: the double lies on the same side of an end of the interval as the decimal.
* `sameSide_above` and `sameSide_below`: this is so of both ends, unless the decimal is one of the
  near misses.
* `nearMisses_read` evaluates the near misses, which read back as well.
* `reads_back` is the result, and `reads_back_exact` is the case where the double is the decimal.
-/

namespace FanBoard.ReadBack

open Float.Model (Format UnpackedFloat)
open Float.Model.UnpackedFloat
open Json (Literal)
open Rounding (Canonical Catches Denotes ScalesTo scaled)
open Shortest (Found Within gapBelow shortest wholes)
open Halfway (nearMisses)

/-! ## Reading a value within the interval -/

/-- A value within the interval is rounded to the single. -/
theorem catches_of_within {m : Nat} {e : Int} {y : ℚ} (h : Within m e y) :
    Catches Format.binary32 m e y := by
  obtain ⟨hlow, hhigh⟩ := h.bounds
  have hgap := (Shortest.gapBelow_bounds m e).2
  refine ⟨by linarith, by linarith, fun htie => ?_, fun hm he => ?_⟩
  · by_contra hodd
    rw [Within, if_neg hodd] at h
    have hlt : |y - m * 2 ^ e| < 2 ^ e / 2 := abs_lt.mpr ⟨by linarith, by linarith⟩
    exact hlt.ne htie
  · have hquarter : gapBelow m e = 2 ^ e / 4 := if_pos ⟨hm, he⟩
    rw [hquarter] at hlow
    linarith

/-- A double within the interval is read to the single. -/
theorem ofDouble_of_within {v : Float} {z : ℚ} {m : Nat} {e : Int} (hv : Denotes v z)
    (hc : Canonical Format.binary32 m e) (h : Within m e z) :
    Single.ofDouble v = .ofModel (.pack (.finite .positive m e hc.pos)) := by
  obtain ⟨m', e', hm', hunpack, -, -, rfl⟩ := hv
  rw [Single.ofDouble, hunpack]
  show Single.ofParts .positive m' e' = _
  rw [Single.ofParts, Rounding.round_of_catches .positive hm'.ne' hc (catches_of_within h)]

/-! ## The two ends -/

/-- `z` lies on the side of `b` on which `y` lies. -/
structure SameSide (y z b : ℚ) : Prop where
  below : y < b → z < b
  above : b < y → b < z
  equal : y = b → z = b

/-- What lies on the same side of both ends as a value within the interval is within. -/
theorem within_of_sameSide {m : Nat} {e : Int} {y z : ℚ} (h : Within m e y)
    (hlow : SameSide y z (m * 2 ^ e - gapBelow m e))
    (hhigh : SameSide y z (m * 2 ^ e + 2 ^ e / 2)) : Within m e z := by
  rw [Within] at h ⊢
  by_cases heven : m % 2 = 0
  · rw [if_pos heven] at h ⊢
    constructor
    · rcases h.1.lt_or_eq with hlt | heq
      · exact (hlow.above hlt).le
      · exact (hlow.equal heq.symm).ge
    · rcases h.2.lt_or_eq with hlt | heq
      · exact (hhigh.below hlt).le
      · exact (hhigh.equal heq).le
  · rw [if_neg heven] at h ⊢
    exact ⟨hlow.above h.1, hhigh.below h.2⟩

variable {d : Nat} {k : Int} {z : ℚ}

/-- What comes out for a decimal lies on the same side of a number that is not too near. -/
theorem sameSide_of_apart {b : ℚ} (hz : ScalesTo d k z) (hb : 0 < b)
    (hapart : b < |(d : ℚ) * 10 ^ k - b| * 2 ^ 51) : SameSide (d * 10 ^ k) z b := by
  obtain ⟨hlow, hhigh⟩ := abs_le.mp hz.near
  generalize (d : ℚ) * 10 ^ k = y at *
  norm_num at hlow hhigh hapart
  constructor
  · intro hlt
    rw [abs_of_neg (sub_neg.mpr hlt)] at hapart
    linarith
  · intro hgt
    rw [abs_of_pos (sub_pos.mpr hgt)] at hapart
    linarith
  · rintro rfl
    rw [sub_self, abs_zero, zero_mul] at hapart
    linarith

/-- The power of ten is small where a short decimal is a short multiple of a power of two. -/
theorem exponent_of_equal {n : Nat} {s : Int} (hd : d ≠ 0) (hshort : d < 10 ^ 9) (hn : n ≠ 0)
    (hshort' : n < 2 ^ 25) (heq : (d : ℚ) * 10 ^ k = n * 2 ^ s) : -22 ≤ k ∧ k ≤ 22 := by
  have hwhole : d * 10 ^ k.toNat * 2 ^ (-s).toNat = n * 2 ^ s.toNat * 10 ^ (-k).toNat :=
    Nat.le_antisymm (Shortest.wholes_le.mpr heq.le) (Shortest.wholes_ge.mpr heq.ge)
  have hcoprime (a b : Nat) : Nat.Coprime (5 ^ a) (2 ^ b) :=
    Nat.Coprime.pow a b (by decide)
  have hten (j : Nat) : 10 ^ j = 5 ^ j * 2 ^ j := by rw [← Nat.mul_pow]
  constructor
  · -- the power of five divides the digits
    by_contra hlt
    have hdvd : 5 ^ (-k).toNat ∣ d := by
      refine (hcoprime _ _).dvd_of_dvd_mul_right (n := 2 ^ (-s).toNat) ?_
      rw [show k.toNat = 0 by omega, Nat.pow_zero, Nat.mul_one] at hwhole
      rw [hwhole, hten]
      exact Dvd.dvd.mul_left (Nat.dvd_mul_right _ _) _
    have hle := Nat.le_of_dvd (Nat.pos_of_ne_zero hd) hdvd
    have hpow : 5 ^ 22 ≤ 5 ^ (-k).toNat := Nat.pow_le_pow_right (by decide) (by omega)
    norm_num at hpow hshort
    omega
  · by_contra hlt
    have hdvd : 5 ^ k.toNat ∣ n := by
      refine (hcoprime _ _).dvd_of_dvd_mul_right (n := 2 ^ s.toNat) ?_
      rw [show (-k).toNat = 0 by omega, Nat.pow_zero, Nat.mul_one] at hwhole
      rw [← hwhole, hten]
      exact Dvd.dvd.mul_right (Dvd.dvd.mul_left (Nat.dvd_mul_right _ _) _) _
    have hle := Nat.le_of_dvd (Nat.pos_of_ne_zero hn) hdvd
    have hpow : 5 ^ 22 ≤ 5 ^ k.toNat := Nat.pow_le_pow_right (by decide) (by omega)
    norm_num at hpow hshort'
    omega

/-- A decimal on a coarse grid and a halfway point: what comes out is on the same side, unless the
decimal is a near miss. -/
theorem sameSide_halfway {n : Nat} {s : Int} (hz : ScalesTo d k z) (hd : d ≠ 0)
    (hshort : d < 10 ^ 9) (hs : -150 ≤ s ∧ s ≤ 103) (hk : (2 : ℚ) ^ s < 10 ^ k)
    (hodd : n % 2 = 1) (hn : n < 2 ^ 25) (hlong : 2 ^ 24 < n ∨ s = -150) :
    SameSide (d * 10 ^ k) z (n * 2 ^ s) ∨ ⟨s, k, d, n⟩ ∈ nearMisses := by
  have hpos : (0 : ℚ) < n * 2 ^ s := by
    have : (0 : ℚ) < n := by exact_mod_cast (show 0 < n by omega)
    positivity
  by_cases heq : (d : ℚ) * 10 ^ k = n * 2 ^ s
  · have hexact := hz.exact (exponent_of_equal hd hshort (by omega) hn heq) n s (by omega) heq
    rw [hexact]
    exact Or.inl ⟨id, id, id⟩
  · by_cases hnear : |(d : ℚ) * 10 ^ k - n * 2 ^ s| * 2 ^ 51 ≤ n * 2 ^ s
    · exact Or.inr (Halfway.near_halfway hs hk (Nat.pos_of_ne_zero hd) hodd
        (Nat.le_of_lt_succ hn) hlong heq hnear)
    · exact Or.inl (sameSide_of_apart hz hpos (not_le.mp hnear))

section

variable {m : Nat} {e : Int}

/-- The upper end. -/
theorem sameSide_above (hc : Canonical Format.binary32 m e) (he : e ≤ 104) (hf : Found m e d k)
    (hz : ScalesTo d k z) :
    SameSide (d * 10 ^ k) z (m * 2 ^ e + 2 ^ e / 2) ∨ ⟨e - 1, k, d, 2 * m + 1⟩ ∈ nearMisses := by
  have hunit : (0 : ℚ) < 2 ^ e := by positivity
  have hpos : (0 : ℚ) < m * 2 ^ e + 2 ^ e / 2 := by positivity
  have hmax : ((m : ℚ) + 1) * 2 ^ e ≤ 2 ^ 24 * 2 ^ e :=
    mul_le_mul_of_nonneg_right (by exact_mod_cast hc.short) hunit.le
  have hhalf : (2 : ℚ) ^ (e - 1) = 2 ^ e / 2 := zpow_sub_one₀ (by norm_num) e
  -- a decimal that is a quarter of a unit below the end is far from it
  have hfar : (d : ℚ) * 10 ^ k - m * 2 ^ e ≤ 2 ^ e / 4 →
      SameSide (d * 10 ^ k) z (m * 2 ^ e + 2 ^ e / 2) := by
    intro hle
    refine sameSide_of_apart hz hpos ?_
    rw [abs_of_neg (by linarith)]
    norm_num at hmax ⊢
    linarith
  by_cases hside : (m : ℚ) * 2 ^ e < d * 10 ^ k
  · by_cases hfine : (10 : ℚ) ^ k ≤ 2 ^ e / 2
    · exact Or.inl (hfar (hf.above hside hfine))
    · have hend : (m : ℚ) * 2 ^ e + 2 ^ e / 2 = (2 * m + 1 : Nat) * 2 ^ (e - 1) := by
        rw [hhalf]
        push_cast
        ring
      have hmin : -149 ≤ e := hc.bounded
      have hshort : m < 2 ^ 24 := hc.short
      have hfull : 2 ^ 23 ≤ m ∨ e = -149 := hc.full
      rw [hend]
      refine sameSide_halfway hz hf.pos hf.short (by omega) ?_ (by omega) (by omega) (by omega)
      rw [hhalf]
      exact not_le.mp hfine
  · exact Or.inl (hfar (by linarith))

/-- The lower end as a halfway point. -/
theorem lower_end (hc : Canonical Format.binary32 m e) :
    ∃ s n, s ≤ e - 1 ∧ -150 ≤ s ∧ n % 2 = 1 ∧ n < 2 ^ 25 ∧ (2 ^ 24 < n ∨ s = -150) ∧
      gapBelow m e = 2 ^ s ∧ (m : ℚ) * 2 ^ e - gapBelow m e = (n : Nat) * 2 ^ s ∧
      (s = e - 1 ∧ n + 1 = 2 * m ∨ n = 33554431) := by
  have hmin : -149 ≤ e := hc.bounded
  have hshort : m < 2 ^ 24 := hc.short
  have hfull : 2 ^ 23 ≤ m ∨ e = -149 := hc.full
  have hpos := hc.pos
  by_cases hdense : m = twoTo 23 ∧ -149 < e
  · have hm : m = 8388608 := hdense.1
    have hgap : gapBelow m e = 2 ^ (e - 2) := by
      rw [gapBelow, if_pos hdense, Shortest.quarter e]
      ring
    refine ⟨e - 2, 33554431, by omega, by omega, by decide, by decide, Or.inl (by decide), hgap, ?_,
      Or.inr rfl⟩
    rw [hgap, Shortest.quarter e, hm]
    push_cast
    ring
  · have hgap : gapBelow m e = 2 ^ (e - 1) := by
      rw [gapBelow, if_neg hdense, zpow_sub_one₀ (by norm_num)]
      rfl
    have hdense' : ¬(m = 8388608 ∧ -149 < e) := hdense
    refine ⟨e - 1, 2 * m - 1, by omega, by omega, by omega, by omega, by omega, hgap, ?_,
      Or.inl ⟨rfl, by omega⟩⟩
    rw [hgap, zpow_sub_one₀ (by norm_num), Nat.cast_sub (by omega)]
    push_cast
    ring

/-- The lower end. -/
theorem sameSide_below (hc : Canonical Format.binary32 m e) (he : e ≤ 104) (hf : Found m e d k)
    (hz : ScalesTo d k z) :
    SameSide (d * 10 ^ k) z (m * 2 ^ e - gapBelow m e) ∨
      ∃ n, ⟨e - 1, k, d, n⟩ ∈ nearMisses ∧ n + 1 = 2 * m := by
  have hunit : (0 : ℚ) < 2 ^ e := by positivity
  have hmax : ((m : ℚ) + 1) * 2 ^ e ≤ 2 ^ 24 * 2 ^ e :=
    mul_le_mul_of_nonneg_right (by exact_mod_cast hc.short) hunit.le
  have hgap := Shortest.gapBelow_bounds m e
  have hmin : (2 : ℚ) ^ e ≤ m * 2 ^ e := le_mul_of_one_le_left hunit.le (by exact_mod_cast hc.pos)
  have hpos : (0 : ℚ) < m * 2 ^ e - gapBelow m e := by linarith
  -- a decimal that is half the gap above the end is far from it
  have hfar : (m : ℚ) * 2 ^ e - d * 10 ^ k ≤ gapBelow m e / 2 →
      SameSide (d * 10 ^ k) z (m * 2 ^ e - gapBelow m e) := by
    intro hle
    refine sameSide_of_apart hz hpos ?_
    rw [abs_of_pos (by linarith)]
    norm_num at hmax ⊢
    linarith
  by_cases hside : (d : ℚ) * 10 ^ k < m * 2 ^ e
  · by_cases hfine : (10 : ℚ) ^ k ≤ gapBelow m e
    · exact Or.inl (hfar (hf.below hside hfine))
    · obtain ⟨s, n, hs, hs', hodd, hn, hlong, hpower, hend, hplace⟩ := lower_end hc
      rw [hend]
      refine (sameSide_halfway hz hf.pos hf.short (by omega) ?_ hodd hn hlong).imp_right
        fun hmiss => ?_
      · rw [← hpower]
        exact not_le.mp hfine
      · rcases hplace with ⟨rfl, hn⟩ | rfl
        · exact ⟨n, hmiss, hn⟩
        · simp [nearMisses] at hmiss
  · exact Or.inl (hfar (by linarith))

end

/-! ## The near misses -/

/-- Whether `d * 10 ^ k` is read to the single `m * 2 ^ e`. -/
def readsTo (d : Nat) (k : Int) (m : Nat) (e : Int) : Bool :=
  if h : 0 < m then
    decide (Single.ofDouble (scaled d k) = .ofModel (.pack (.finite .positive m e h)))
  else false

/-- A near miss is read to the single on its own side of the halfway point. -/
theorem nearMisses_read : ∀ t ∈ nearMisses,
    (wholes t.digits t.exponent t.multiple t.power).1 <
          (wholes t.digits t.exponent t.multiple t.power).2 ∧
        readsTo t.digits t.exponent ((t.multiple - 1) / 2) (t.power + 1) = true ∨
      (wholes t.digits t.exponent t.multiple t.power).2 <
          (wholes t.digits t.exponent t.multiple t.power).1 ∧
        readsTo t.digits t.exponent ((t.multiple + 1) / 2) (t.power + 1) = true := by
  decide

theorem readsTo_iff {m : Nat} {e : Int} (h : 0 < m) : readsTo d k m e = true ↔
    Single.ofDouble (scaled d k) = .ofModel (.pack (.finite .positive m e h)) := by
  rw [readsTo, dif_pos h, decide_eq_true_iff]

/-- A near miss of the upper end is read to the single. -/
theorem readsTo_of_miss_above {m : Nat} {e : Int} (h : Within m e (d * 10 ^ k))
    (hmiss : ⟨e - 1, k, d, 2 * m + 1⟩ ∈ nearMisses) : readsTo d k m e = true := by
  have hend : (m : ℚ) * 2 ^ e + 2 ^ e / 2 = (2 * m + 1 : Nat) * 2 ^ (e - 1) := by
    rw [zpow_sub_one₀ (by norm_num)]
    push_cast
    ring
  rcases nearMisses_read _ hmiss with ⟨-, hread⟩ | ⟨hside, -⟩
  · simpa only [Nat.add_sub_cancel, Nat.mul_div_cancel_left m (show 0 < 2 by decide),
      Int.sub_add_cancel] using hread
  · have hhigh := h.bounds.2
    rw [hend] at hhigh
    exact absurd (Shortest.wholes_gt.mp hside) (not_lt.mpr hhigh)

/-- A near miss of the lower end is read to the single. -/
theorem readsTo_of_miss_below {m n : Nat} {e : Int} (h : Within m e (d * 10 ^ k))
    (hmiss : ⟨e - 1, k, d, n⟩ ∈ nearMisses) (hn : n + 1 = 2 * m) : readsTo d k m e = true := by
  have hend : (m : ℚ) * 2 ^ e - 2 ^ e / 2 = (n : Nat) * 2 ^ (e - 1) := by
    have hcast : (n : ℚ) + 1 = 2 * m := by exact_mod_cast hn
    rw [zpow_sub_one₀ (by norm_num), show (n : ℚ) = 2 * m - 1 by linarith]
    ring
  rcases nearMisses_read _ hmiss with ⟨hside, -⟩ | ⟨-, hread⟩
  · have hlow := h.bounds.1
    have hgap := (Shortest.gapBelow_bounds m e).2
    have hle : (n : ℚ) * 2 ^ (e - 1) ≤ d * 10 ^ k := by linarith
    exact absurd (Shortest.wholes_lt.mp hside) (not_lt.mpr hle)
  · simpa only [hn, Nat.mul_div_cancel_left m (show 0 < 2 by decide), Int.sub_add_cancel]
      using hread

/-! ## Reading back -/

/-- The decimal that is found for a single is read to this single. -/
theorem reads_back {m : Nat} {e : Int} (hc : Canonical Format.binary32 m e) (he : e ≤ 104)
    (hf : Found m e d k) :
    Literal.scaleTen (Literal.double d) k = some (scaled d k) ∧
      Single.ofDouble (scaled d k) = .ofModel (.pack (.finite .positive m e hc.pos)) := by
  have hrange := hf.range
  have hshort := hf.short
  obtain ⟨z, hscale, hv, hz⟩ :=
    Rounding.scaleTen_double hf.pos (by omega) (by omega : -60 ≤ k ∧ k ≤ 60)
  refine ⟨hscale, ?_⟩
  rcases sameSide_above hc he hf hz with habove | hmiss
  · rcases sameSide_below hc he hf hz with hbelow | ⟨n, hmiss, hn⟩
    · exact ofDouble_of_within hv hc (within_of_sameSide hf.within hbelow habove)
    · exact (readsTo_iff hc.pos).mp (readsTo_of_miss_below hf.within hmiss hn)
  · exact (readsTo_iff hc.pos).mp (readsTo_of_miss_above hf.within hmiss)

/-- Where the decimal is a whole number and written with a zero after the point, it is read
exactly. -/
theorem reads_back_exact {m n : Nat} {e : Int} (hc : Canonical Format.binary32 m e)
    (hn : n ≠ 0) (hshort : 10 * n < 2 ^ 53) (h : Within m e n) :
    Literal.scaleTen (Literal.double (10 * n)) (-1) = some (scaled (10 * n) (-1)) ∧
      Single.ofDouble (scaled (10 * n) (-1)) = .ofModel (.pack (.finite .positive m e hc.pos)) := by
  obtain ⟨z, hscale, hv, hz⟩ :=
    Rounding.scaleTen_double (k := -1) (Nat.mul_ne_zero (by decide) hn) hshort (by decide)
  have hvalue : ((10 * n : Nat) : ℚ) * 10 ^ (-1 : Int) = n := by
    rw [zpow_neg_one]
    push_cast
    field_simp
  have hexact : z = n := by
    rw [← hvalue]
    exact hz.exact (by decide) n 0 (by omega) (by rw [hvalue, zpow_zero, mul_one])
  refine ⟨hscale, ofDouble_of_within hv hc ?_⟩
  rw [hexact]
  exact h

end FanBoard.ReadBack
