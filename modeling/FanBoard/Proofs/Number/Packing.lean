import FanBoard.Proofs.Number.Nearest
import FanBoard.Proofs.Number.Single
import Mathlib

/-!
# Packing and unpacking

The bits of a float are a sign, an exponent and a mantissa without its highest digit.  What an
operation computes is packed, and the next operation unpacks it again.

* `unpack_pack_of_full`: a number with a full mantissa is unpacked as it was packed.
* `canonical_of_unpack`: a number that came from some bits is one of the format.
* `eq_of_unpack`: a single is known by what it is unpacked to.
-/

namespace FanBoard.Rounding

open Float.Model (Format UnpackedFloat totalExponent)
open Float.Model.UnpackedFloat

variable {spec : Format}

/-! ## Unpacking what was packed -/

theorem ofNat_ne_ones {w n : Nat} (h : n + 1 < 2 ^ w) : BitVec.ofNat w n ≠ -1#w := by
  intro heq
  have hval := congrArg BitVec.toNat heq
  rw [BitVec.neg_one_eq_allOnes, BitVec.toNat_allOnes, BitVec.toNat_ofNat,
    Nat.mod_eq_of_lt (by omega)] at hval
  omega

theorem ofNat_ne_zero {w n : Nat} (hpos : 0 < n) (h : n < 2 ^ w) : BitVec.ofNat w n ≠ 0#w := by
  intro heq
  have hval := congrArg BitVec.toNat heq
  rw [BitVec.toNat_ofNat, Nat.mod_eq_of_lt h, BitVec.toNat_zero] at hval
  omega

/-- The highest digit of a mantissa is put back in front of the others. -/
theorem toNat_one_append {w : Nat} (v : BitVec w) : (1#1 ++ v).toNat = 2 ^ w + v.toNat := by
  rw [BitVec.toNat_append, ← Nat.shiftLeft_add_eq_or_of_lt v.isLt, Nat.shiftLeft_eq]
  simp

/-- The highest binary digit of a full mantissa. -/
theorem log2_of_full {m : Nat} (hlo : 2 ^ spec.mantissaBitsWithoutImplicit ≤ m)
    (hhi : m < 2 ^ spec.mantissaBits) : m.log2 = spec.mantissaBitsWithoutImplicit := by
  have hpos : m ≠ 0 := (lt_of_lt_of_le (Nat.two_pow_pos _) hlo).ne'
  have hle := (Nat.le_log2 hpos).mpr hlo
  have hlt := (Nat.log2_lt hpos).mpr hhi
  have hbits := cast_mantissaBits spec
  omega

/-- The least exponent is stored as one. -/
theorem minExponent_eq (spec : Format) :
    spec.minExponent = 1 - (spec.exponentBias + spec.mantissaBitsWithoutImplicit : Int) := by
  have hpow := Nat.one_le_two_pow (n := spec.exponentBits - 1)
  have hbits := cast_mantissaBits spec
  rw [Format.minExponent, Format.exponentBias]
  push_cast [Nat.cast_sub hpow]
  omega

/-- A number with a full mantissa and an exponent that fits is unpacked as it was packed. -/
theorem unpack_pack_of_full {s : Sign} {m : Nat} {e : Int} (h : 0 < m)
    (hlo : 2 ^ spec.mantissaBitsWithoutImplicit ≤ m) (hhi : m < 2 ^ spec.mantissaBits)
    (hmin : spec.minExponent ≤ e)
    (hmax : e + spec.exponentBias + spec.mantissaBitsWithoutImplicit + 1 < 2 ^ spec.exponentBits) :
    unpack spec (pack spec (.finite s m e h)) = .finite s m e h := by
  rw [minExponent_eq] at hmin
  have hbits := cast_mantissaBits spec
  have hdouble := two_pow_mantissaBits spec
  obtain ⟨biased, hbiased⟩ : ∃ n : Nat,
      e + spec.exponentBias + spec.mantissaBitsWithoutImplicit = n :=
    Int.eq_ofNat_of_zero_le (by omega)
  have hfits : biased + 1 < 2 ^ spec.exponentBits := by
    rw [hbiased] at hmax
    exact_mod_cast hmax
  have hpacked : pack spec (.finite s m e h) =
      packComponents spec s (BitVec.ofNat _ biased) (BitVec.ofNat _ m) := by
    rw [pack]
    simp only [log2_of_full hlo hhi, hbiased, Int.toNat_natCast]
    rw [if_neg (by omega), if_pos (by omega)]
  have hmantissa : (1#1 ++ BitVec.ofNat spec.mantissaBitsWithoutImplicit m).toNat = m := by
    rw [toNat_one_append, BitVec.toNat_ofNat, Nat.mod_eq_sub_mod hlo, Nat.mod_eq_of_lt (by omega)]
    omega
  rw [hpacked, unpack]
  simp only [unpackMantissa_packComponents, unpackExponent_packComponents,
    unpackSign_packComponents, Sign.ofBitVec_toBitVec, hmantissa]
  rw [if_neg (ofNat_ne_ones hfits), if_neg (ofNat_ne_zero (by omega) (by omega)),
    BitVec.toNat_ofNat, Nat.mod_eq_of_lt (by omega)]
  congr 1
  omega

/-! ## What comes from bits -/

/-- A number that came from some bits is one of the format, and its exponent is not too large. -/
theorem canonical_of_unpack (hwide : 1 < spec.exponentBits) {b : BitVec spec.numBits} {s : Sign}
    {m : Nat} {e : Int} {h : 0 < m} (hb : unpack spec b = .finite s m e h) :
    Canonical spec m e ∧
      e + spec.exponentBias + spec.mantissaBitsWithoutImplicit + 1 < 2 ^ spec.exponentBits := by
  have hdouble := two_pow_mantissaBits spec
  have hleast := minExponent_eq spec
  have hmantissa := (unpackMantissa b).isLt
  have hexponent : ((unpackExponent b).toNat : Int) < 2 ^ spec.exponentBits := by
    exact_mod_cast (unpackExponent b).isLt
  rw [unpack] at hb
  split at hb
  · split at hb <;> cases hb
  · rename_i hones
    split at hb
    · rename_i hzero
      split at hb
      · cases hb
      · -- the highest digit is missing
        obtain ⟨rfl, rfl, rfl⟩ := UnpackedFloat.finite.inj hb
        have hbits : ((2 ^ 2 : Nat) : Int) ≤ ((2 ^ spec.exponentBits : Nat) : Int) := by
          exact_mod_cast Nat.pow_le_pow_right (by decide) hwide
        push_cast at hbits
        rw [hzero, BitVec.toNat_zero]
        exact ⟨⟨h, by omega, by omega, Or.inr (by omega)⟩, by omega⟩
    · rename_i hzero
      obtain ⟨rfl, rfl, rfl⟩ := UnpackedFloat.finite.inj hb
      have hpos : (unpackExponent b).toNat ≠ 0 := fun heq => hzero (BitVec.eq_of_toNat_eq heq)
      have hne : (unpackExponent b).toNat ≠ 2 ^ spec.exponentBits - 1 := by
        intro heq
        refine hones (BitVec.eq_of_toNat_eq ?_)
        rw [heq, BitVec.neg_one_eq_allOnes, BitVec.toNat_allOnes]
      have hlt : ((unpackExponent b).toNat : Int) + 1 < 2 ^ spec.exponentBits := by
        have := (unpackExponent b).isLt
        exact_mod_cast (by omega : (unpackExponent b).toNat + 1 < 2 ^ spec.exponentBits)
      rw [toNat_one_append]
      exact ⟨⟨by omega, by omega, by omega, Or.inl (by omega)⟩, by omega⟩

/-- A single is known by what it is unpacked to. -/
theorem eq_of_unpack {x : Float32} {u : UnpackedFloat} (h : Single.unpack x = u) :
    .ofModel (.pack u) = x := by
  subst h
  exact Float32.ofBits_toBits x

end FanBoard.Rounding
