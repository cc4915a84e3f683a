import FanBoard.Number.Shortest
import Mathlib.Algebra.Order.Field.Power
import Mathlib.Data.Rat.Defs
import Mathlib.Tactic.FieldSimp
import Mathlib.Tactic.Linarith
import Mathlib.Tactic.NormNum.Pow
import Mathlib.Tactic.Positivity
import Mathlib.Tactic.Ring

/-!
# Which decimal is the shortest

The search for the shortest decimal compares whole numbers.  This file says on rational numbers what
it finds.

* `holds_iff`: the comparison asks whether the decimal is `Within` the interval around the single.
* `below_le` and `lt_below_succ`: the two neighbours that are tried on a grid.
* `onGrid_some` and `onGrid_none`: what an answer on one grid means.
* `shortest_spec`: the decimal that is found is the nearer neighbour on the first grid that has one
  in the interval.
* `Found` collects what this says of the distance between the decimal and the single, and
  `found_shortest` proves it.
-/

namespace FanBoard.Shortest

/-! ## Comparisons on whole numbers -/

/-- The number by which both sides of a comparison are multiplied. -/
def common (k s : Int) : ℚ :=
  10 ^ (-k).toNat * 2 ^ (-s).toNat

theorem common_pos (k s : Int) : 0 < common k s := by
  unfold common
  positivity

/-- A power is a quotient of two powers that are whole. -/
theorem zpow_mul_toNat (b : ℚ) (hb : b ≠ 0) (k : Int) : b ^ k * b ^ (-k).toNat = b ^ k.toNat := by
  rw [← zpow_natCast b (-k).toNat, ← zpow_natCast b k.toNat, ← zpow_add₀ hb]
  congr 1
  omega

theorem wholes_fst (c : Nat) (k : Int) (n : Nat) (s : Int) :
    ((wholes c k n s).1 : ℚ) = c * 10 ^ k * common k s := by
  have hten := zpow_mul_toNat 10 (by norm_num) k
  show ((c * 10 ^ k.toNat * 2 ^ (-s).toNat : Nat) : ℚ) = _
  push_cast
  rw [← hten, common]
  ring

theorem wholes_snd (c : Nat) (k : Int) (n : Nat) (s : Int) :
    ((wholes c k n s).2 : ℚ) = n * 2 ^ s * common k s := by
  have htwo := zpow_mul_toNat 2 (by norm_num) s
  show ((n * 2 ^ s.toNat * 10 ^ (-k).toNat : Nat) : ℚ) = _
  push_cast
  rw [← htwo, common]
  ring

theorem wholes_le {c : Nat} {k : Int} {n : Nat} {s : Int} :
    (wholes c k n s).1 ≤ (wholes c k n s).2 ↔ (c : ℚ) * 10 ^ k ≤ n * 2 ^ s := by
  rw [← Nat.cast_le (α := ℚ), wholes_fst, wholes_snd]
  exact mul_le_mul_iff_left₀ (common_pos k s)

theorem wholes_ge {c : Nat} {k : Int} {n : Nat} {s : Int} :
    (wholes c k n s).2 ≤ (wholes c k n s).1 ↔ (n : ℚ) * 2 ^ s ≤ c * 10 ^ k := by
  rw [← Nat.cast_le (α := ℚ), wholes_fst, wholes_snd]
  exact mul_le_mul_iff_left₀ (common_pos k s)

theorem wholes_lt {c : Nat} {k : Int} {n : Nat} {s : Int} :
    (wholes c k n s).1 < (wholes c k n s).2 ↔ (c : ℚ) * 10 ^ k < n * 2 ^ s := by
  rw [← not_le, wholes_ge, not_le]

theorem wholes_gt {c : Nat} {k : Int} {n : Nat} {s : Int} :
    (wholes c k n s).2 < (wholes c k n s).1 ↔ (n : ℚ) * 2 ^ s < c * 10 ^ k := by
  rw [← not_le, wholes_le, not_le]

/-! ## The interval around a single -/

/-- How far the interval reaches below the single. -/
def gapBelow (m : Nat) (e : Int) : ℚ :=
  if m = twoTo 23 ∧ -149 < e then 2 ^ e / 4 else 2 ^ e / 2

/-- A value lies in the interval. -/
def Within (m : Nat) (e : Int) (y : ℚ) : Prop :=
  if m % 2 = 0 then m * 2 ^ e - gapBelow m e ≤ y ∧ y ≤ m * 2 ^ e + 2 ^ e / 2
  else m * 2 ^ e - gapBelow m e < y ∧ y < m * 2 ^ e + 2 ^ e / 2

theorem gapBelow_bounds (m : Nat) (e : Int) :
    2 ^ e / 4 ≤ gapBelow m e ∧ gapBelow m e ≤ 2 ^ e / 2 := by
  have hunit : (0 : ℚ) < 2 ^ e := by positivity
  rw [gapBelow]
  split <;> constructor <;> linarith

theorem Within.bounds {m : Nat} {e : Int} {y : ℚ} (h : Within m e y) :
    m * 2 ^ e - gapBelow m e ≤ y ∧ y ≤ m * 2 ^ e + 2 ^ e / 2 := by
  rw [Within] at h
  split at h
  · exact h
  · exact ⟨h.1.le, h.2.le⟩

/-- What lies between the ends is within. -/
theorem within_of_between {m : Nat} {e : Int} {y : ℚ} (hlow : m * 2 ^ e - gapBelow m e < y)
    (hhigh : y < m * 2 ^ e + 2 ^ e / 2) : Within m e y := by
  rw [Within]
  split
  · exact ⟨hlow.le, hhigh.le⟩
  · exact ⟨hlow, hhigh⟩

theorem quarter (e : Int) : (2 : ℚ) ^ e = 4 * 2 ^ (e - 2) := by
  rw [zpow_sub₀ (by norm_num)]
  norm_num
  ring

theorem ofParts_low {m : Nat} (hm : 0 < m) (e : Int) :
    ((Catchment.ofParts m e).low : ℚ) * 2 ^ (e - 2) = m * 2 ^ e - gapBelow m e := by
  rw [Catchment.ofParts, gapBelow]
  split
  · rw [Nat.cast_sub (by omega), quarter e]
    push_cast
    ring
  · rw [Nat.cast_sub (by omega), quarter e]
    push_cast
    ring

theorem ofParts_mid (m : Nat) (e : Int) :
    ((Catchment.ofParts m e).mid : ℚ) * 2 ^ (e - 2) = m * 2 ^ e := by
  rw [Catchment.ofParts, quarter e]
  push_cast
  ring

theorem ofParts_high (m : Nat) (e : Int) :
    ((Catchment.ofParts m e).high : ℚ) * 2 ^ (e - 2) = m * 2 ^ e + 2 ^ e / 2 := by
  rw [Catchment.ofParts, quarter e]
  push_cast
  ring

/-- The comparison on whole numbers asks whether the decimal lies in the interval. -/
theorem holds_iff {m : Nat} (hm : 0 < m) (e : Int) (c : Nat) (k : Int) :
    (Catchment.ofParts m e).holds c k = true ↔ Within m e (c * 10 ^ k) := by
  have hscale : (Catchment.ofParts m e).scale = e - 2 := rfl
  have hclosed : (Catchment.ofParts m e).closed = (m % 2 == 0) := rfl
  have hfirst : ∀ n n' s, (wholes c k n s).1 = (wholes c k n' s).1 := fun _ _ _ => rfl
  rw [Within, ← ofParts_low hm, ← ofParts_high, Catchment.holds, hscale, hclosed]
  by_cases heven : m % 2 = 0
  · simp only [heven, beq_self_eq_true, if_true, Bool.and_eq_true, decide_eq_true_eq]
    rw [wholes_ge, hfirst _ (Catchment.ofParts m e).high, wholes_le]
  · simp only [heven, beq_iff_eq, if_false, Bool.and_eq_true, decide_eq_true_eq]
    rw [wholes_gt, hfirst _ (Catchment.ofParts m e).high, wholes_lt]

/-! ## The neighbours on a grid -/

variable (i : Catchment) (k : Int)

theorem wholes_fst_mul (c : Nat) (n : Nat) (s : Int) :
    (wholes c k n s).1 = (wholes 1 k n s).1 * c := by
  rw [wholes, wholes, Nat.one_mul, Nat.mul_assoc, Nat.mul_comm]

theorem below_eq : i.below k = (wholes 1 k i.mid i.scale).2 / (wholes 1 k i.mid i.scale).1 := by
  rw [Catchment.below, wholes, Nat.one_mul, Nat.mul_comm (twoTo (-i.scale).toNat)]

/-- The lower neighbour is at most the value. -/
theorem below_le : (i.below k : ℚ) * 10 ^ k ≤ i.mid * 2 ^ i.scale := by
  rw [← wholes_le, wholes_fst_mul, below_eq]
  exact Nat.mul_div_le _ _

/-- The upper neighbour is greater. -/
theorem lt_below_succ : (i.mid : ℚ) * 2 ^ i.scale < (i.below k + 1 : Nat) * 10 ^ k := by
  have hpos : 0 < (wholes 1 k i.mid i.scale).1 :=
    Nat.mul_pos (Nat.mul_pos Nat.one_pos (Nat.pow_pos (by decide))) (Nat.pow_pos (by decide))
  rw [← wholes_gt, wholes_fst_mul, below_eq]
  exact Nat.lt_mul_div_succ _ hpos

/-- What is found on a grid: one of the neighbours, and the nearer one where both read back. -/
theorem onGrid_some {d : Decimal} (h : i.onGrid k = some d) :
    d.exponent = k ∧ i.holds d.digits k = true ∧
      (d.digits = i.below k ∧ (i.holds (i.below k + 1) k = false ∨
          ((2 * i.below k + 1 : Nat) : ℚ) * 10 ^ k ≥ (2 * i.mid : Nat) * 2 ^ i.scale) ∨
        d.digits = i.below k + 1 ∧ (i.holds (i.below k) k = false ∨
          ((2 * i.below k + 1 : Nat) : ℚ) * 10 ^ k ≤ (2 * i.mid : Nat) * 2 ^ i.scale)) := by
  rw [Catchment.onGrid] at h
  simp only at h
  rw [ge_iff_le, ← wholes_ge, ← wholes_le]
  cases hlow : i.holds (i.below k) k <;> cases hhigh : i.holds (i.below k + 1) k <;>
    simp only [hlow, hhigh] at h
  case false.false => cases h
  case false.true =>
    cases h
    exact ⟨rfl, hhigh, Or.inr ⟨rfl, Or.inl rfl⟩⟩
  case true.false =>
    cases h
    exact ⟨rfl, hlow, Or.inl ⟨rfl, Or.inl rfl⟩⟩
  case true.true =>
    split at h
    · rename_i hlt
      cases h
      exact ⟨rfl, hlow, Or.inl ⟨rfl, Or.inr hlt.le⟩⟩
    · split at h
      · rename_i hlt
        cases h
        exact ⟨rfl, hhigh, Or.inr ⟨rfl, Or.inr hlt.le⟩⟩
      · -- two equally near neighbours
        rename_i hle hge
        cases h
        rcases Nat.mod_two_eq_zero_or_one (i.below k) with heven | hodd
        · rw [heven]
          exact ⟨rfl, hlow, Or.inl ⟨rfl, Or.inr (not_lt.mp hge)⟩⟩
        · rw [hodd]
          exact ⟨rfl, hhigh, Or.inr ⟨rfl, Or.inr (not_lt.mp hle)⟩⟩

/-- A grid is passed over where neither neighbour reads back. -/
theorem onGrid_none (h : i.onGrid k = none) :
    i.holds (i.below k) k = false ∧ i.holds (i.below k + 1) k = false := by
  rw [Catchment.onGrid] at h
  simp only at h
  cases hlow : i.holds (i.below k) k <;> cases hhigh : i.holds (i.below k + 1) k <;>
    simp only [hlow, hhigh] at h
  case false.false => exact ⟨rfl, rfl⟩
  case false.true => cases h
  case true.false => cases h
  case true.true =>
    split at h
    · cases h
    · split at h <;> cases h

/-! ## The search -/

theorem getElem?_grids {n : Nat} (hn : n < 90) : grids[n]? = some (40 - (n : Int)) := by
  rw [grids, List.getElem?_map, List.getElem?_range hn]
  rfl

/-- The search stops at the first grid that has an answer. -/
theorem findSome?_grids {f : Int → Option Decimal} (h : ∃ n < 90, f (40 - (n : Nat)) ≠ none) :
    ∃ k d, -49 ≤ k ∧ k ≤ 40 ∧ grids.findSome? f = some d ∧ f k = some d ∧
      (k < 40 → f (k + 1) = none) := by
  obtain ⟨n, hn, hsome⟩ := h
  cases hfind : grids.findSome? f with
  | none =>
    exact absurd (List.findSome?_eq_none_iff.mp hfind _ (List.mem_of_getElem? (getElem?_grids hn)))
      hsome
  | some d =>
    obtain ⟨before, k, after, hsplit, hk, hbefore⟩ := List.findSome?_eq_some_iff.mp hfind
    have hlength : before.length < 90 := by
      have htotal : grids.length = 90 := by rw [grids, List.length_map, List.length_range]
      rw [hsplit, List.length_append, List.length_cons] at htotal
      omega
    have hplace : k = 40 - (before.length : Int) := by
      have hget := getElem?_grids hlength
      rw [hsplit, List.getElem?_append_right (le_refl _), Nat.sub_self,
        List.getElem?_cons_zero] at hget
      exact Option.some.inj hget
    refine ⟨k, d, by omega, by omega, rfl, hk, fun hcoarser => hbefore _ ?_⟩
    have hprevious := getElem?_grids (n := before.length - 1) (by omega)
    rw [hsplit, List.getElem?_append_left (by omega)] at hprevious
    rw [show k + 1 = 40 - ((before.length - 1 : Nat) : Int) by omega]
    exact List.mem_of_getElem? hprevious

/-! ## What is found -/

section

variable {m : Nat} {e k : Int}

/-- The value lies between its neighbours. -/
theorem neighbours (m : Nat) (e k : Int) :
    ((Catchment.ofParts m e).below k : ℚ) * 10 ^ k ≤ m * 2 ^ e ∧
      (m : ℚ) * 2 ^ e < ((Catchment.ofParts m e).below k + 1 : Nat) * 10 ^ k := by
  have hscale : (Catchment.ofParts m e).scale = e - 2 := rfl
  have hlow := below_le (Catchment.ofParts m e) k
  have hhigh := lt_below_succ (Catchment.ofParts m e) k
  rw [hscale, ofParts_mid] at hlow hhigh
  exact ⟨hlow, hhigh⟩

/-- A lower neighbour that does not read back is below the interval. -/
theorem below_of_not_holds (hm : 0 < m)
    (h : (Catchment.ofParts m e).holds ((Catchment.ofParts m e).below k) k = false) :
    ((Catchment.ofParts m e).below k : ℚ) * 10 ^ k ≤ m * 2 ^ e - gapBelow m e := by
  have hunit : (0 : ℚ) < 2 ^ e := by positivity
  by_contra hlow
  have hle := (neighbours m e k).1
  have hwithin := within_of_between (not_le.mp hlow) (by linarith)
  rw [← holds_iff hm, h] at hwithin
  exact Bool.false_ne_true hwithin

/-- An upper neighbour that does not read back is above the interval. -/
theorem above_of_not_holds (hm : 0 < m)
    (h : (Catchment.ofParts m e).holds ((Catchment.ofParts m e).below k + 1) k = false) :
    (m : ℚ) * 2 ^ e + 2 ^ e / 2 ≤ ((Catchment.ofParts m e).below k + 1 : Nat) * 10 ^ k := by
  have hunit : (0 : ℚ) < 2 ^ e := by positivity
  by_contra hhigh
  have hlt := (neighbours m e k).2
  have hgap := (gapBelow_bounds m e).1
  have hwithin := within_of_between (by linarith) (not_le.mp hhigh)
  rw [← holds_iff hm, h] at hwithin
  exact Bool.false_ne_true hwithin

/-- A grid that is fine enough has a point in the interval. -/
theorem onGrid_ne_none (hm : 0 < m) (hfine : (10 : ℚ) ^ k ≤ 2 ^ e / 2) :
    (Catchment.ofParts m e).onGrid k ≠ none := by
  intro hnone
  have hunit : (0 : ℚ) < 2 ^ e := by positivity
  obtain ⟨hlow, hhigh⟩ := onGrid_none _ _ hnone
  have hbelow := below_of_not_holds hm hlow
  have habove := above_of_not_holds hm hhigh
  have hgap := (gapBelow_bounds m e).1
  push_cast at habove
  linarith

/-- Twice the middle of a grid cell, against twice the value. -/
theorem middle_iff (m : Nat) (e k : Int) (c : Nat) :
    (((2 * c + 1 : Nat) : ℚ) * 10 ^ k ≤ (2 * (Catchment.ofParts m e).mid : Nat) * 2 ^ (e - 2) ↔
        ((2 : ℚ) * c + 1) * 10 ^ k ≤ 2 * (m * 2 ^ e)) ∧
      ((2 * (Catchment.ofParts m e).mid : Nat) * 2 ^ (e - 2) ≤ ((2 * c + 1 : Nat) : ℚ) * 10 ^ k ↔
        2 * (m * 2 ^ e) ≤ ((2 : ℚ) * c + 1) * 10 ^ k) := by
  have hmid : ((2 * (Catchment.ofParts m e).mid : Nat) : ℚ) * 2 ^ (e - 2) = 2 * (m * 2 ^ e) := by
    rw [← ofParts_mid m e]
    push_cast
    ring
  rw [hmid]
  push_cast
  exact ⟨Iff.rfl, Iff.rfl⟩

/-- A decimal above the single, on a grid that is finer than half a unit. -/
theorem near_above {d : Decimal} (hm : 0 < m) (hgrid : (Catchment.ofParts m e).onGrid k = some d)
    (habove : (m : ℚ) * 2 ^ e < d.digits * 10 ^ k) (hfine : (10 : ℚ) ^ k ≤ 2 ^ e / 2) :
    (d.digits : ℚ) * 10 ^ k - m * 2 ^ e ≤ 2 ^ e / 4 := by
  obtain ⟨-, -, ⟨hd, -⟩ | ⟨hd, hnearer⟩⟩ := onGrid_some _ _ hgrid
  · -- the lower neighbour is not above
    rw [hd] at habove
    exact absurd habove (not_lt.mpr (neighbours m e k).1)
  · rw [hd]
    rcases hnearer with hmissed | hnearer
    · have hbelow := below_of_not_holds hm hmissed
      have hgap := (gapBelow_bounds m e).1
      push_cast
      linarith
    · have hmiddle := (middle_iff m e k _).1.mp hnearer
      push_cast
      linarith

/-- A decimal below the single, on a grid that is finer than the distance to the lower end. -/
theorem near_below {d : Decimal} (hm : 0 < m) (hgrid : (Catchment.ofParts m e).onGrid k = some d)
    (hbelow : (d.digits : ℚ) * 10 ^ k < m * 2 ^ e) (hfine : (10 : ℚ) ^ k ≤ gapBelow m e) :
    (m : ℚ) * 2 ^ e - d.digits * 10 ^ k ≤ gapBelow m e / 2 := by
  have hunit : (0 : ℚ) < 2 ^ e := by positivity
  obtain ⟨-, -, ⟨hd, hnearer⟩ | ⟨hd, -⟩⟩ := onGrid_some _ _ hgrid
  · rw [hd]
    rcases hnearer with hmissed | hnearer
    · have habove := above_of_not_holds hm hmissed
      have hgap := (gapBelow_bounds m e).2
      push_cast at habove
      linarith
    · have hmiddle := (middle_iff m e k _).2.mp hnearer
      linarith
  · -- the upper neighbour is not below
    rw [hd] at hbelow
    exact absurd hbelow (not_lt.mpr (neighbours m e k).2.le)

/-- The decimal that is found for a single: it reads back, it is not long, and on a grid that is
finer than the interval it lies well inside. -/
structure Found (m : Nat) (e : Int) (d : Nat) (k : Int) : Prop where
  range : -49 ≤ k ∧ k ≤ 38
  pos : d ≠ 0
  short : d < 10 ^ 9
  within : Within m e (d * 10 ^ k)
  above : (m : ℚ) * 2 ^ e < d * 10 ^ k → (10 : ℚ) ^ k ≤ 2 ^ e / 2 →
    (d : ℚ) * 10 ^ k - m * 2 ^ e ≤ 2 ^ e / 4
  below : (d : ℚ) * 10 ^ k < m * 2 ^ e → (10 : ℚ) ^ k ≤ gapBelow m e →
    (m : ℚ) * 2 ^ e - d * 10 ^ k ≤ gapBelow m e / 2

/-- The search finds such a decimal. -/
theorem found_shortest (hm : 0 < m) (hshort : m < 2 ^ 24) (he : -149 ≤ e ∧ e ≤ 104) :
    Found m e (shortest m e).digits (shortest m e).exponent := by
  have hunit : (0 : ℚ) < 2 ^ e := by positivity
  have hfinest : (10 : ℚ) ^ (-49 : Int) ≤ 2 ^ e / 2 := by
    have hleast : (2 : ℚ) ^ (-149 : Int) ≤ 2 ^ e := zpow_le_zpow_right₀ (by norm_num) he.1
    norm_num at hleast ⊢
    linarith
  obtain ⟨k, d, hlow, hhigh, hsearch, hgrid, hcoarser⟩ :=
    findSome?_grids ⟨89, by decide, onGrid_ne_none hm hfinest⟩
  have hshortest : shortest m e = d := by rw [shortest, hsearch, Option.getD_some]
  obtain ⟨hk, hholds, -⟩ := onGrid_some _ _ hgrid
  have hwithin := (holds_iff hm e _ _).mp hholds
  obtain ⟨hbottom, htop⟩ := hwithin.bounds
  have hgap := (gapBelow_bounds m e).2
  have hpower : (0 : ℚ) < 10 ^ k := by positivity
  have hmin : (2 : ℚ) ^ e ≤ m * 2 ^ e := le_mul_of_one_le_left hunit.le (by exact_mod_cast hm)
  have hmax : ((m : ℚ) + 1) * 2 ^ e ≤ 2 ^ 24 * 2 ^ e :=
    mul_le_mul_of_nonneg_right (by exact_mod_cast hshort) hunit.le
  have hupper : (d.digits : ℚ) * 10 ^ k < 2 ^ 24 * 2 ^ e := by linarith
  have hpos : d.digits ≠ 0 := by
    intro hzero
    rw [hzero, Nat.cast_zero, zero_mul] at hbottom
    linarith
  have hrange : k ≤ 38 := by
    have hone : (10 : ℚ) ^ k ≤ d.digits * 10 ^ k :=
      le_mul_of_one_le_left hpower.le (by exact_mod_cast Nat.one_le_iff_ne_zero.mpr hpos)
    have hgreatest : (2 : ℚ) ^ e ≤ 2 ^ (104 : Int) := zpow_le_zpow_right₀ (by norm_num) he.2
    have hlt : (10 : ℚ) ^ k < 10 ^ (39 : Int) := by
      norm_num at hgreatest hupper ⊢
      linarith
    have := (zpow_lt_zpow_iff_right₀ (by norm_num)).mp hlt
    omega
  rw [hshortest, hk]
  refine ⟨⟨hlow, hrange⟩, hpos, ?_, hwithin, near_above hm hgrid, near_below hm hgrid⟩
  -- the next coarser grid has no point in the interval
  have hnext : 2 ^ e / 2 < (10 : ℚ) ^ (k + 1) := by
    by_contra hfine
    exact onGrid_ne_none hm (not_lt.mp hfine) (hcoarser (by omega))
  rw [zpow_add_one₀ (by norm_num)] at hnext
  have hlt : (d.digits : ℚ) * 10 ^ k < 10 ^ 9 * 10 ^ k := by
    norm_num at hupper ⊢
    linarith
  have hshort' := lt_of_mul_lt_mul_right hlt hpower.le
  exact_mod_cast hshort'

end

end FanBoard.Shortest
