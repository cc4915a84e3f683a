import FanBoard.Proofs.Number.Shortest
import Mathlib.Tactic.LinearCombination

/-!
# Decimals near a point halfway between two singles

A decimal is read to a double first, and the double is rounded to a single.  The two roundings give
the single that is nearest to the decimal, unless the first one carries the decimal onto or over a
point halfway between two singles.  Such a point is an odd multiple `n * 2 ^ s` of a power of two,
and the decimal `d * 10 ^ k` has to lie within about one part of `2 ^ 51` of it.

The decimals that the printer chooses can only come so near on a grid that is coarser than
`2 ^ s`.  There `d` and `n` are below `2 ^ 25`, and `d / n` is a very good approximation to
`2 ^ s / 10 ^ k`.  This file finds all of them.

* `clear` looks through all fractions with a bounded denominator.  It descends through the tree of
  mediants, and leaves out a side as soon as all its fractions are too small or too large.
* `told_of_clear` is what an answer of `clear` means.
* `certified_all` evaluates it for all the powers of two, and `near_halfway` states the result: the
  only decimals that come so near are the five of `nearMisses`.
-/

namespace FanBoard.Halfway

open Shortest (wholes)

/-! ## Fractions that are near a quotient -/

section

/-- `p / q` is less than `β / α`, by more than one part of `2 ^ 51`. -/
def Below (α β p q : Nat) : Prop :=
  twoTo 51 * (p * α) + q * β < twoTo 51 * (q * β)

/-- `p / q` is greater than `β / α`, by more than one part of `2 ^ 51`. -/
def Above (α β p q : Nat) : Prop :=
  twoTo 51 * (q * β) + q * β < twoTo 51 * (p * α)

instance (α β p q : Nat) : Decidable (Below α β p q) :=
  inferInstanceAs (Decidable (_ < _))

instance (α β p q : Nat) : Decidable (Above α β p q) :=
  inferInstanceAs (Decidable (_ < _))

/-- Looks through the fractions between `a / b` and `c / d` with a denominator of at most `bound`.
Every one of them has to be apart from `β / α`, equal to it, or a multiple of an exempt pair. -/
def clear (α β bound : Nat) (exempt : Nat → Nat → Bool) : Nat → Nat → Nat → Nat → Nat → Bool
  | 0, _, _, _, _ => false
  | fuel + 1, a, b, c, d =>
    let p := a + c
    let q := b + d
    if bound < q then true
    else if Below α β p q then clear α β bound exempt fuel p q c d
    else if Above α β p q then clear α β bound exempt fuel a b p q
    else if p * α = q * β then p * bound < twoTo 51
    else exempt p q && clear α β bound exempt fuel a b p q && clear α β bound exempt fuel p q c d

variable {α β bound : Nat} {exempt : Nat → Nat → Bool}

/-- What is at most a fraction below is below. -/
theorem Below.mono {p q p' q' : Nat} (h : Below α β p q) (hq' : 0 < q') (hle : p' * q ≤ p * q') :
    Below α β p' q' := by
  refine Nat.lt_of_mul_lt_mul_left (a := q) ?_
  calc q * (twoTo 51 * (p' * α) + q' * β)
      = twoTo 51 * α * (p' * q) + q' * (q * β) := by ring
    _ ≤ twoTo 51 * α * (p * q') + q' * (q * β) :=
        Nat.add_le_add_right (Nat.mul_le_mul_left _ hle) _
    _ = q' * (twoTo 51 * (p * α) + q * β) := by ring
    _ < q' * (twoTo 51 * (q * β)) := Nat.mul_lt_mul_of_pos_left h hq'
    _ = q * (twoTo 51 * (q' * β)) := by ring

/-- What is at least a fraction above is above. -/
theorem Above.mono {p q p' q' : Nat} (h : Above α β p q) (hq' : 0 < q') (hle : p * q' ≤ p' * q) :
    Above α β p' q' := by
  refine Nat.lt_of_mul_lt_mul_left (a := q) ?_
  calc q * (twoTo 51 * (q' * β) + q' * β)
      = q' * (twoTo 51 * (q * β) + q * β) := by ring
    _ < q' * (twoTo 51 * (p * α)) := Nat.mul_lt_mul_of_pos_left h hq'
    _ = twoTo 51 * α * (p * q') := by ring
    _ ≤ twoTo 51 * α * (p' * q) := Nat.mul_le_mul_left _ hle
    _ = q * (twoTo 51 * (p' * α)) := by ring

/-- What `clear` says of a fraction. -/
def Told (α β : Nat) (exempt : Nat → Nat → Bool) (p q : Nat) : Prop :=
  Below α β p q ∨ Above α β p q ∨ p * α = q * β ∨
    ∃ j p₀ q₀, exempt p₀ q₀ = true ∧ p = j * p₀ ∧ q = j * q₀

/-- A fraction between two neighbours of the tree has at least the denominator of the mediant. -/
theorem mediant_le {a b c d p q : Nat} (hdet : b * c = a * d + 1) (hlow : a * q < p * b)
    (hhigh : p * d < c * q) : b + d ≤ q := by
  zify at hdet hlow hhigh ⊢
  have hq : (q : Int) = b * (c * q - p * d) + d * (p * b - a * q) := by
    linear_combination (-(q : Int)) * hdet
  have hb : (b : Int) * 1 ≤ b * (c * q - p * d) := by gcongr; linarith
  have hd : (d : Int) * 1 ≤ d * (p * b - a * q) := by gcongr; linarith
  linarith

/-- A fraction that is equal to the mediant is a multiple of it. -/
theorem multiple_of_eq {a b p₀ q₀ p q : Nat} (hdet : b * p₀ = a * q₀ + 1)
    (heq : p * q₀ = p₀ * q) : ∃ j, p = j * p₀ ∧ q = j * q₀ := by
  have hp₀ : 0 < p₀ := by
    rcases Nat.eq_zero_or_pos p₀ with rfl | h
    · omega
    · exact h
  zify at hdet heq hp₀
  have hp : (p : Int) = (b * p - a * q) * p₀ := by
    linear_combination (-(p : Int)) * hdet - a * heq
  have hq : (q : Int) = (b * p - a * q) * q₀ := by
    linear_combination (-(q : Int)) * hdet - b * heq
  have hj : 0 ≤ (b * p - a * q : Int) :=
    nonneg_of_mul_nonneg_left (hp ▸ Int.natCast_nonneg p) hp₀
  obtain ⟨j, hj⟩ := Int.eq_ofNat_of_zero_le hj
  rw [hj] at hp hq
  exact ⟨j, by exact_mod_cast hp, by exact_mod_cast hq⟩

/-- Where a small fraction is equal to the quotient, all others lie apart from it. -/
theorem apart_of_equal {p₀ q₀ p q : Nat} (hβ : 0 < β) (hexact : p₀ * α = q₀ * β)
    (hsmall : p₀ * bound < twoTo 51) (hq : q ≤ bound) (hne : p * q₀ ≠ p₀ * q) :
    Below α β p q ∨ Above α β p q := by
  have hshort : p₀ * q < twoTo 51 := (Nat.mul_le_mul_left p₀ hq).trans_lt hsmall
  have hscaled : p₀ * (p * α) = β * (p * q₀) := by
    calc p₀ * (p * α) = p * (p₀ * α) := by ring
      _ = p * (q₀ * β) := by rw [hexact]
      _ = β * (p * q₀) := by ring
  rcases Nat.lt_or_gt_of_ne hne with hlt | hgt
  · refine Or.inl (Nat.lt_of_mul_lt_mul_left (a := p₀) ?_)
    calc p₀ * (twoTo 51 * (p * α) + q * β)
        = twoTo 51 * (p₀ * (p * α)) + p₀ * q * β := by ring
      _ = β * (twoTo 51 * (p * q₀) + p₀ * q) := by rw [hscaled]; ring
      _ < β * (twoTo 51 * (p * q₀ + 1)) :=
          Nat.mul_lt_mul_of_pos_left (by rw [Nat.mul_succ]; omega) hβ
      _ ≤ β * (twoTo 51 * (p₀ * q)) := Nat.mul_le_mul_left _ (Nat.mul_le_mul_left _ hlt)
      _ = p₀ * (twoTo 51 * (q * β)) := by ring
  · refine Or.inr (Nat.lt_of_mul_lt_mul_left (a := p₀) ?_)
    calc p₀ * (twoTo 51 * (q * β) + q * β)
        = β * (twoTo 51 * (p₀ * q) + p₀ * q) := by ring
      _ < β * (twoTo 51 * (p₀ * q + 1)) :=
          Nat.mul_lt_mul_of_pos_left (by rw [Nat.mul_succ]; omega) hβ
      _ ≤ β * (twoTo 51 * (p * q₀)) := Nat.mul_le_mul_left _ (Nat.mul_le_mul_left _ hgt)
      _ = twoTo 51 * (p₀ * (p * α)) := by rw [hscaled]; ring
      _ = p₀ * (twoTo 51 * (p * α)) := by ring

/-- Every fraction is told where a small one is equal to the quotient. -/
theorem told_of_exact {p₀ q₀ p q : Nat} (hβ : 0 < β) (hq₀ : 0 < q₀) (hexact : p₀ * α = q₀ * β)
    (hsmall : p₀ * bound < twoTo 51) (hq : q ≤ bound) : Told α β exempt p q := by
  by_cases heq : p * q₀ = p₀ * q
  · refine Or.inr (Or.inr (Or.inl (Nat.eq_of_mul_eq_mul_left hq₀ ?_)))
    calc q₀ * (p * α) = p * q₀ * α := by ring
      _ = p₀ * α * q := by rw [heq]; ring
      _ = q₀ * (q * β) := by rw [hexact]; ring
  · rcases apart_of_equal hβ hexact hsmall hq heq with h | h
    · exact Or.inl h
    · exact Or.inr (Or.inl h)

/-- What `clear` has looked through. -/
theorem told_of_clear {fuel a b c d p q : Nat} (hβ : 0 < β)
    (hclear : clear α β bound exempt fuel a b c d = true) (hdet : b * c = a * d + 1)
    (hlow : a * q < p * b) (hhigh : p * d < c * q) (hq : q ≤ bound) : Told α β exempt p q := by
  induction fuel generalizing a b c d with
  | zero => cases hclear
  | succ fuel ih =>
    have hpos : 0 < q := Nat.pos_of_ne_zero (by rintro rfl; simp at hhigh)
    have hleft : b * (a + c) = a * (b + d) + 1 := by rw [Nat.mul_add, hdet]; ring
    have hright : (b + d) * c = (a + c) * d + 1 := by rw [Nat.add_mul, hdet]; ring
    rw [clear] at hclear
    by_cases hbound : bound < b + d
    · have := mediant_le hdet hlow hhigh
      omega
    rw [if_neg hbound] at hclear
    by_cases hbelow : Below α β (a + c) (b + d)
    · rw [if_pos hbelow] at hclear
      by_cases hle : p * (b + d) ≤ (a + c) * q
      · exact Or.inl (hbelow.mono hpos hle)
      · exact ih hclear hright (Nat.lt_of_not_le hle) hhigh
    rw [if_neg hbelow] at hclear
    by_cases habove : Above α β (a + c) (b + d)
    · rw [if_pos habove] at hclear
      by_cases hle : (a + c) * q ≤ p * (b + d)
      · exact Or.inr (Or.inl (habove.mono hpos hle))
      · exact ih hclear hleft hlow (Nat.lt_of_not_le hle)
    rw [if_neg habove] at hclear
    by_cases hexact : (a + c) * α = (b + d) * β
    · rw [if_pos hexact, decide_eq_true_eq] at hclear
      have hpos' : 0 < b + d := Nat.pos_of_ne_zero fun hzero => by simp [hzero] at hright
      exact told_of_exact hβ hpos' hexact hclear hq
    rw [if_neg hexact, Bool.and_eq_true, Bool.and_eq_true] at hclear
    -- the fraction is the mediant or on one of its two sides
    rcases Nat.lt_trichotomy (p * (b + d)) ((a + c) * q) with hlt | heq | hgt
    · exact ih hclear.1.2 hleft hlow hlt
    · obtain ⟨j, hp, hq⟩ := multiple_of_eq hleft heq
      exact Or.inr (Or.inr (Or.inr ⟨j, _, _, hclear.1.1, hp, hq⟩))
    · exact ih hclear.2 hright hgt hhigh

end

/-! ## All powers of two -/

/-- The multiples of a power of two that are looked at are at most this. -/
def limit : Nat := 33554431

/-- The finest grid that is coarser than `2 ^ s`. -/
def grid (s : Int) : Int :=
  s * 1233 / 4096 + 1

/-- A decimal `digits * 10 ^ exponent` that lies very near a halfway point `multiple * 2 ^ power`
without being equal to it. -/
structure NearMiss where
  power : Int
  exponent : Int
  digits : Nat
  multiple : Nat
deriving DecidableEq

/-- All of them. -/
def nearMisses : List NearMiss :=
  [ ⟨-123, -37, 23990983, 25511589⟩,
    ⟨-108, -32, 7038531, 22841339⟩,
    ⟨-107, -32, 14077062, 22841339⟩,
    ⟨-50, -15, 25645849, 28874659⟩,
    ⟨56, 17, 17448701, 24214937⟩ ]

/-- What needs not be apart: an even multiple is not a halfway point, and neither is a small one of
any power but the least.  Past a third of the limit a pair has no odd multiple but itself. -/
def exempt (s : Int) (p q : Nat) : Bool :=
  q % 2 == 0 ||
    limit < 3 * q && (q ≤ 16777216 && s != -150 || nearMisses.contains ⟨s, grid s, p, q⟩)

/-- One power of two: its grid, and the fractions that are near the quotient. -/
def certified (s : Int) : Bool :=
  (wholes 1 (grid s - 1) 1 s).1 ≤ (wholes 1 (grid s - 1) 1 s).2 &&
    clear (wholes 1 (grid s) 1 s).1 (wholes 1 (grid s) 1 s).2 limit (exempt s) 1500 0 1 1 0

theorem certified_all : ∀ i < 254, certified ((i : Nat) - 150) = true := by
  decide +kernel

theorem certified_of_range {s : Int} (hs : -150 ≤ s ∧ s ≤ 103) : certified s = true := by
  obtain ⟨i, hi⟩ := Int.eq_ofNat_of_zero_le (by omega : 0 ≤ s + 150)
  have h := certified_all i (by omega)
  rwa [← hi, Int.add_sub_cancel] at h

/-- The grid of a power of two is the finest one that is coarser. -/
theorem grid_le {s k : Int} (hs : -150 ≤ s ∧ s ≤ 103) (hk : (2 : ℚ) ^ s < 10 ^ k) : grid s ≤ k := by
  have hcertified := certified_of_range hs
  rw [certified, Bool.and_eq_true, decide_eq_true_eq, Shortest.wholes_le, Nat.cast_one, one_mul,
    one_mul] at hcertified
  have := (zpow_lt_zpow_iff_right₀ (by norm_num)).mp (hcertified.1.trans_lt hk)
  omega

/-- The digits of a near miss do not end in a zero. -/
theorem nearMisses_mod : ∀ t ∈ nearMisses, t.digits % 10 ≠ 0 := by
  decide

/-- The certificate for a fraction, on rational numbers. -/
theorem told_of_near {s : Int} {d n : Nat} (hs : -150 ≤ s ∧ s ≤ 103) (hd : 0 < d)
    (hn : 0 < n ∧ n ≤ limit)
    (hnear : |(d : ℚ) * 10 ^ grid s - n * 2 ^ s| * 2 ^ 51 ≤ n * 2 ^ s) :
    (d : ℚ) * 10 ^ grid s = n * 2 ^ s ∨
      ∃ j p q, exempt s p q = true ∧ d = j * p ∧ n = j * q := by
  have hcertified := certified_of_range hs
  rw [certified, Bool.and_eq_true] at hcertified
  set α := (wholes 1 (grid s) 1 s).1 with hα
  set β := (wholes 1 (grid s) 1 s).2 with hβ
  have hunit := Shortest.common_pos (grid s) s
  have hα' : (d * α : ℚ) = d * 10 ^ grid s * Shortest.common (grid s) s := by
    rw [hα, Shortest.wholes_fst, Nat.cast_one, one_mul, mul_assoc]
  have hβ' : (n * β : ℚ) = n * 2 ^ s * Shortest.common (grid s) s := by
    rw [hβ, Shortest.wholes_snd, Nat.cast_one, one_mul, mul_assoc]
  have hpos : 0 < β := by
    have : (0 : ℚ) < β := by
      rw [hβ, Shortest.wholes_snd]
      positivity
    exact_mod_cast this
  have hscaled : |(d * α : ℚ) - n * β| * 2 ^ 51 ≤ n * β := by
    rw [hα', hβ', ← sub_mul, abs_mul, abs_of_pos hunit, mul_right_comm]
    exact mul_le_mul_of_nonneg_right hnear hunit.le
  have htwo : ((twoTo 51 : Nat) : ℚ) = 2 ^ 51 := by norm_num [twoTo]
  have hend : 0 * n < d * 1 := by omega
  have hend' : d * 0 < 1 * n := by omega
  rcases told_of_clear hpos hcertified.2 rfl hend hend' hn.2 with h | h | h | h
  · have h' : (2 : ℚ) ^ 51 * (d * α) + n * β < 2 ^ 51 * (n * β) := by
      rw [← htwo]
      exact_mod_cast h
    linarith [neg_abs_le ((d * α : ℚ) - n * β)]
  · have h' : (2 : ℚ) ^ 51 * (n * β) + n * β < 2 ^ 51 * (d * α) := by
      rw [← htwo]
      exact_mod_cast h
    linarith [le_abs_self ((d * α : ℚ) - n * β)]
  · refine Or.inl (mul_right_cancel₀ hunit.ne' ?_)
    rw [← hα', ← hβ']
    exact_mod_cast h
  · exact Or.inr h

/-- The only decimals, on a grid that is coarser than `2 ^ s`, that come near a halfway point. -/
theorem near_halfway {s k : Int} {d n : Nat} (hs : -150 ≤ s ∧ s ≤ 103)
    (hk : (2 : ℚ) ^ s < 10 ^ k) (hd : 0 < d) (hodd : n % 2 = 1) (hn : n ≤ limit)
    (hlong : 16777216 < n ∨ s = -150) (hne : (d : ℚ) * 10 ^ k ≠ n * 2 ^ s)
    (hnear : |(d : ℚ) * 10 ^ k - n * 2 ^ s| * 2 ^ 51 ≤ n * 2 ^ s) : ⟨s, k, d, n⟩ ∈ nearMisses := by
  obtain ⟨j, hj⟩ := Int.eq_ofNat_of_zero_le (sub_nonneg.mpr (grid_le hs hk))
  have hvalue : (d : ℚ) * 10 ^ k = (d * 10 ^ j : Nat) * 10 ^ grid s := by
    rw [show k = j + grid s by omega, zpow_add₀ (by norm_num), zpow_natCast]
    push_cast
    ring
  rw [hvalue] at hne hnear
  rcases told_of_near hs (Nat.mul_pos hd (Nat.pow_pos (by decide))) ⟨by omega, hn⟩ hnear with
    heq | ⟨i, p, q, hexempt, hp, hq⟩
  · exact absurd heq hne
  · have hi : i % 2 = 1 := Nat.odd_iff.mp (Nat.Odd.of_mul_left (Nat.odd_iff.mpr (hq ▸ hodd)))
    have hq' : q % 2 = 1 := Nat.odd_iff.mp (Nat.Odd.of_mul_right (Nat.odd_iff.mpr (hq ▸ hodd)))
    simp only [exempt, hq', Nat.one_ne_zero, beq_iff_eq, Bool.or_eq_true, Bool.and_eq_true,
      decide_eq_true_eq, bne_iff_ne, List.contains_iff_mem, false_or] at hexempt
    obtain ⟨hthird, hcase⟩ := hexempt
    obtain rfl : i = 1 := by
      by_contra hne
      have := Nat.mul_le_mul_right q (show 3 ≤ i by omega)
      omega
    rw [Nat.one_mul] at hp hq
    subst hp hq
    rcases hcase with ⟨hsmall, hleast⟩ | hmem
    · omega
    · -- a coarser grid would leave zeros at the end
      have hmod := nearMisses_mod _ hmem
      obtain rfl : j = 0 := by
        by_contra hne
        obtain ⟨j', rfl⟩ := Nat.exists_eq_succ_of_ne_zero hne
        refine hmod ?_
        show d * 10 ^ (j' + 1) % 10 = 0
        rw [Nat.pow_succ, ← Nat.mul_assoc, Nat.mul_mod_left]
      rw [Nat.pow_zero, Nat.mul_one] at hmem
      rwa [show k = grid s by omega]

end FanBoard.Halfway
