import FanBoard.Proofs.Number.Packing

/-!
# Whole numbers among the singles

`Single.roundHalfAway` takes a single with digits behind the point to a whole number.  Such a number
is short, so it is a single itself.

* `unpack_ofParts`: a whole number of up to 24 binary digits is packed exactly.
* `roundHalfAway_ofParts`: it is rounded to itself.
* `roundHalfAway_roundHalfAway`: so rounding a second time changes nothing.
-/

namespace FanBoard.Single

open Float.Model (Format UnpackedFloat totalExponent)

/-- A short whole number is packed exactly. -/
theorem unpack_ofParts (s : UnpackedFloat.Sign) {n : Nat} (hpos : n ≠ 0) (hshort : n < 2 ^ 24) :
    ∃ m e h, unpack (ofParts s n 0) = .finite s m e h ∧ (n : ℚ) = m * 2 ^ e := by
  have hvalue : (n : ℚ) = n * 2 ^ (0 : Int) := by rw [zpow_zero, mul_one]
  have hself : (n : ℚ) ≤ n / 2 ^ (0 : Int) ∧ (n : ℚ) / 2 ^ (0 : Int) < n + 1 := by
    rw [zpow_zero, div_one]
    exact ⟨le_refl _, lt_add_one _⟩
  have hT := Rounding.totalExponent_bounds hpos hself
  have hlog := (Nat.log2_lt hpos).mpr hshort
  have htotal : 0 < totalExponent n 0 ∧ totalExponent n 0 ≤ 24 := by
    rw [totalExponent]
    omega
  have hbits : (Format.binary32.mantissaBits : Int) = 24 := rfl
  have hmin : Format.binary32.minExponent = -149 := rfl
  obtain ⟨r, hr, hround⟩ := Rounding.round_eq Format.binary32 s hpos (e := 0) (by rwa [← hvalue])
  rw [← hvalue] at hr
  obtain ⟨m, e, h, hsettle, hfull, hm, he, he', hrounds⟩ :=
    Rounding.settle_normal s hT (by omega) hr
  rw [hbits] at he he'
  refine ⟨m, e, h, ?_, (hrounds.exact n 0 hshort hvalue).symm⟩
  have hparts : ofParts s n 0 = .ofModel (.pack (.finite s m e h)) := by
    rw [ofParts, hround, hsettle]
  rw [hparts]
  refine Rounding.unpack_pack_of_full h hfull hm (by omega) ?_
  show e + 127 + 23 + 1 < 256
  omega

section Finite

variable {x : Float32} {s : UnpackedFloat.Sign} {m : Nat} {e : Int} {h : 0 < m}
  (hx : unpack x = .finite s m e h)

include hx

/-- A single without digits behind the point stays. -/
theorem roundHalfAway_of_nonneg (he : 0 ≤ e) : roundHalfAway x = x := by
  rw [roundHalfAway, hx]
  exact if_pos he

theorem roundHalfAway_of_neg (he : ¬0 ≤ e) :
    roundHalfAway x = ofParts s ((2 * m + twoTo (-e).toNat) / (2 * twoTo (-e).toNat)) 0 := by
  rw [roundHalfAway, hx]
  exact if_neg he

end Finite

/-- A half added to a whole number in units of a fraction is cut off again. -/
theorem round_whole (n k : Nat) (hk : k ≠ 0) :
    (2 * (n * twoTo k) + twoTo k) / (2 * twoTo k) = n := by
  obtain ⟨j, rfl⟩ := Nat.exists_eq_succ_of_ne_zero hk
  have hpos : 0 < twoTo (j + 1) := Nat.two_pow_pos _
  have hsplit : 2 * (n * twoTo (j + 1)) + twoTo (j + 1) =
      twoTo (j + 1) + 2 * twoTo (j + 1) * n := by ring
  rw [hsplit, Nat.add_mul_div_left _ _ (by omega), Nat.div_eq_of_lt (by omega), Nat.zero_add]

/-- A short whole number is rounded to itself. -/
theorem roundHalfAway_ofParts (s : UnpackedFloat.Sign) {n : Nat} (hshort : n < 2 ^ 24) :
    roundHalfAway (ofParts s n 0) = ofParts s n 0 := by
  by_cases hpos : n = 0
  · subst hpos
    cases s <;> decide
  · obtain ⟨m, e, h, hunpack, hvalue⟩ := unpack_ofParts s hpos hshort
    by_cases he : 0 ≤ e
    · exact roundHalfAway_of_nonneg hunpack he
    · -- the mantissa is the whole number in units of the exponent
      have hamount : ((-e).toNat : Int) = -e := Int.toNat_of_nonneg (by omega)
      have hmantissa : m = n * twoTo (-e).toNat := by
        have hcast : (m : ℚ) = ((n * 2 ^ (-e).toNat : Nat) : ℚ) := by
          push_cast
          rw [hvalue, ← zpow_natCast, hamount, mul_assoc, ← zpow_add₀ (by norm_num),
            add_neg_cancel, zpow_zero, mul_one]
        exact_mod_cast hcast
      rw [roundHalfAway_of_neg hunpack he, hmantissa, round_whole n _ (by omega)]

/-- Rounding a second time changes nothing. -/
theorem roundHalfAway_roundHalfAway (x : Float32) :
    roundHalfAway (roundHalfAway x) = roundHalfAway x := by
  cases hx : unpack x with
  | infinity s | zero s | notANumber =>
    have hstays : roundHalfAway x = x := by rw [roundHalfAway, hx]
    rw [hstays, hstays]
  | finite s m e h =>
    by_cases he : 0 ≤ e
    · rw [roundHalfAway_of_nonneg hx he, roundHalfAway_of_nonneg hx he]
    · rw [roundHalfAway_of_neg hx he]
      refine roundHalfAway_ofParts s ?_
      -- at most the mantissa itself
      have hbits : UnpackedFloat.unpack Format.binary32 x.toModel.toBits.toBitVec =
        .finite s m e h := hx
      have hm : m < 2 ^ 24 := (Rounding.canonical_of_unpack (by decide) hbits).1.short
      have hunit : 0 < twoTo (-e).toNat := Nat.two_pow_pos _
      refine lt_of_le_of_lt ?_ hm
      rw [← Nat.lt_succ_iff, Nat.div_lt_iff_lt_mul (by omega)]
      nlinarith

end FanBoard.Single
