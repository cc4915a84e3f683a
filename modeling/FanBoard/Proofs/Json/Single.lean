import FanBoard.Proofs.Json.Literal
import FanBoard.Proofs.Number.ReadBack

/-!
# Singles in a document

A single is written as its shortest decimal in one of four forms.  Each of them spells the digits of
the decimal and its power of ten, except that a whole number gets a zero after the point.

* `Literal.ofDecimal_spec`: what the four forms spell.
* `Literal.single?_ofSingle`: a finite single that is not negative is read as it was written.
-/

namespace FanBoard.Json.Literal

open Float.Model (Format UnpackedFloat)
open Shortest (Decimal)

/-! ## The four forms -/

/-- The digits of a positive decimal. -/
theorem digits_of_pos {n : Nat} (h : n ≠ 0) : ∃ ds, Digit.ofNat n = ds ∧ ds ≠ [] ∧
    ds.head? ≠ some 0 ∧ Digit.spell 0 ds = n :=
  ⟨_, rfl, Digit.ofNat_ne_nil n, Digit.head?_ofNat h, Digit.toNat_ofNat n⟩

/-- The four forms, by where the point stands. -/
theorem ofDecimal_cases (negative : Bool) (d : Decimal) {ds : List Digit}
    (hds : Digit.ofNat d.digits = ds) (hne : ds ≠ []) :
    (∃ j : Nat, d.exponent = j ∧ ds.length + j ≤ 13 ∧
        ofDecimal negative d = ⟨negative, ds ++ List.replicate j 0, some [0], none⟩) ∨
      (∃ j : Nat, 0 < j ∧ j < ds.length ∧ (j : Int) = ds.length + d.exponent ∧
        ofDecimal negative d = ⟨negative, ds.take j, some (ds.drop j), none⟩) ∨
      (∃ j : Nat, ds.length + d.exponent = -j ∧
        ofDecimal negative d = ⟨negative, [0], some (List.replicate j 0 ++ ds), none⟩) ∨
      ofDecimal negative d = ⟨negative, ds.take 1,
        if ds.length = 1 then none else some (ds.drop 1),
        some (if ds.length + d.exponent - 1 < 0 then .minus else .plus,
          Digit.ofNat (ds.length + d.exponent - 1).natAbs)⟩ := by
  have hlength : 0 < ds.length := List.length_pos_iff.mpr hne
  rw [ofDecimal, hds]
  simp only
  split
  · rename_i h
    refine Or.inl ⟨d.exponent.toNat, by omega, by omega, rfl⟩
  · split
    · refine Or.inr (Or.inl ⟨(ds.length + d.exponent).toNat, by omega, by omega, by omega, rfl⟩)
    · split
      · exact Or.inr (Or.inr (Or.inl ⟨(-(ds.length + d.exponent)).toNat, by omega, rfl⟩))
      · exact Or.inr (Or.inr (Or.inr rfl))

theorem negative_ofDecimal (negative : Bool) (d : Decimal) :
    (ofDecimal negative d).negative = negative := by
  rw [ofDecimal]
  simp only
  split
  · rfl
  · split
    · rfl
    · split <;> rfl

theorem wellFormed_ofDecimal (negative : Bool) {d : Decimal} (hd : d.digits ≠ 0) :
    (ofDecimal negative d).WellFormed := by
  obtain ⟨ds, hds, hne, hhead, -⟩ := digits_of_pos hd
  have hfront : ∀ j, 0 < j → (ds.take j ≠ [] ∧ (ds.take j).head? ≠ some 0) := by
    intro j hj
    rw [List.head?_take, if_neg hj.ne']
    exact ⟨fun heq => (List.take_eq_nil_iff.mp heq).elim hj.ne' hne, hhead⟩
  rcases ofDecimal_cases negative d hds hne with
    ⟨j, -, -, heq⟩ | ⟨j, hj, hlt, -, heq⟩ | ⟨j, -, heq⟩ | heq <;> rw [heq]
  · refine ⟨Or.inr ⟨by simp [hne], ?_⟩, fun ds h => by cases h; exact nofun, nofun⟩
    rw [List.head?_append, Option.or_of_isSome (List.isSome_head?.mpr hne)]
    exact hhead
  · refine ⟨Or.inr (hfront j hj), fun ds' h => ?_, nofun⟩
    cases h
    exact fun hnil => absurd (List.drop_eq_nil_iff.mp hnil) (by omega)
  · refine ⟨Or.inl rfl, fun ds' h => ?_, nofun⟩
    cases h
    exact fun hnil => hne (List.append_eq_nil_iff.mp hnil).2
  · refine ⟨Or.inr (hfront 1 Nat.one_pos), fun ds' h => ?_, fun p h => ?_⟩
    · have hlength : 0 < ds.length := List.length_pos_iff.mpr hne
      split at h
      · cases h
      · cases h
        exact fun hnil => absurd (List.drop_eq_nil_iff.mp hnil) (by omega)
    · cases h
      exact Digit.ofNat_ne_nil _

/-- What a decimal is written as: a fraction or an exponent, and the digits and the power of ten of
the decimal, or ten times the number and a tenth. -/
theorem ofDecimal_spec (negative : Bool) {d : Decimal} (hd : d.digits ≠ 0) :
    ((ofDecimal negative d).fraction ≠ none ∨ (ofDecimal negative d).exponent ≠ none) ∧
      ((ofDecimal negative d).significand = d.digits ∧
          (ofDecimal negative d).scale = d.exponent ∨
        0 ≤ d.exponent ∧ d.digits * tenTo d.exponent.toNat < tenTo 13 ∧
          (ofDecimal negative d).significand = 10 * (d.digits * tenTo d.exponent.toNat) ∧
          (ofDecimal negative d).scale = -1) := by
  obtain ⟨ds, hds, hne, -, hspell⟩ := digits_of_pos hd
  rcases ofDecimal_cases negative d hds hne with
    ⟨j, hj, hlength, heq⟩ | ⟨j, hj, hlt, hplace, heq⟩ | ⟨j, hplace, heq⟩ | heq <;> rw [heq]
  · refine ⟨Or.inl nofun, Or.inr ⟨by omega, ?_, ?_, rfl⟩⟩ <;> rw [hj, Int.toNat_natCast]
    · have hlt := Digit.spell_lt 0 ds
      rw [hspell, Nat.zero_add, Nat.one_mul] at hlt
      calc d.digits * tenTo j < tenTo ds.length * tenTo j :=
            Nat.mul_lt_mul_of_pos_right hlt (Nat.pow_pos (by decide))
        _ = tenTo (ds.length + j) := (Nat.pow_add 10 _ _).symm
        _ ≤ tenTo 13 := Nat.pow_le_pow_right (by decide) hlength
    · show Digit.spell 0 ((ds ++ List.replicate j 0) ++ [0]) = _
      rw [Digit.spell_append, Digit.spell_append, hspell, Digit.spell_zeros]
      rfl
  · refine ⟨Or.inl nofun, Or.inl ⟨?_, ?_⟩⟩
    · show Digit.spell 0 (ds.take j ++ ds.drop j) = _
      rw [List.take_append_drop, hspell]
    · show (0 : Int) - (ds.drop j).length = _
      rw [List.length_drop]
      omega
  · refine ⟨Or.inl nofun, Or.inl ⟨?_, ?_⟩⟩
    · show Digit.spell 0 ([0] ++ (List.replicate j 0 ++ ds)) = _
      rw [Digit.spell_append, Digit.spell_append, Digit.spell_zeros,
        show Digit.spell 0 [0] = 0 from rfl, Nat.zero_mul, hspell]
    · show (0 : Int) - (List.replicate j 0 ++ ds).length = _
      rw [List.length_append, List.length_replicate]
      omega
  · have hlength : 0 < ds.length := List.length_pos_iff.mpr hne
    have hrest : ((if ds.length = 1 then none else some (ds.drop 1)).getD [] : List Digit) =
        ds.drop 1 := by
      split
      · exact (List.drop_eq_nil_of_le (by omega)).symm
      · rfl
    refine ⟨Or.inr nofun, Or.inl ⟨?_, ?_⟩⟩
    · show Digit.spell 0 (ds.take 1 ++ _) = _
      rw [hrest, List.take_append_drop, hspell]
    · simp only [scale, hrest, List.length_drop, power]
      split
      · rename_i h
        cases h
      · rename_i h
        split at h <;> cases h
        rw [Digit.toNat_ofNat]
        omega
      · rename_i h
        split at h <;> cases h
        · exact absurd rfl ‹_›
        · rw [Digit.toNat_ofNat]
          omega

/-! ## Reading back -/

theorem single?_of_real {l : Literal} {v : Float} (h : l.fraction ≠ none ∨ l.exponent ≠ none)
    (hsign : l.negative = false) (hfits : l.significand < UInt64.size)
    (hv : scaleTen (double l.significand) l.scale = some v) :
    l.single? = some (Single.ofDouble v) := by
  rw [single?, amount?_eq h, real?_eq hfits, hv, hsign]
  rfl

/-- A zero keeps its sign. -/
theorem single?_zero (s : UnpackedFloat.Sign) :
    (⟨s == .negative, [0], some [0], none⟩ : Literal).single? =
      some (.ofModel (.pack (.zero s))) := by
  have hscale : scaleTen (double 0) (-1) = some (double 0 / double (tenTo 1)) := by
    rw [scaleTen]
    rfl
  have hread : Single.ofDouble (double 0 / double (tenTo 1)) =
        .ofModel (.pack (.zero .positive)) ∧
      Single.ofDouble (-(double 0 / double (tenTo 1))) = .ofModel (.pack (.zero .negative)) := by
    decide
  have hfits : (⟨s == .negative, [0], some [0], none⟩ : Literal).significand < UInt64.size := by
    show 0 < UInt64.size
    decide
  rw [single?, amount?_eq (Or.inl (Option.some_ne_none _)), real?_eq hfits]
  show (((scaleTen (double 0) (-1)).map _).map _).map _ = _
  rw [hscale]
  cases s with
  | positive => exact congrArg some hread.1
  | negative => exact congrArg some hread.2

/-- A finite single that is not negative: what it is unpacked to. -/
theorem unpack_of_finite {x : Float32} (hfinite : x.isFinite = true) (hnonneg : 0 ≤ x) :
    (∃ s, Single.unpack x = .zero s) ∨ ∃ m e h, Single.unpack x = .finite .positive m e h := by
  have hfinite' : (Single.unpack x).isFinite = true := hfinite
  rw [Single.le_iff, Single.unpack_zero] at hnonneg
  cases hx : Single.unpack x with
  | infinity s | notANumber =>
    rw [hx] at hfinite'
    exact absurd hfinite' Bool.false_ne_true
  | zero s => exact Or.inl ⟨s, rfl⟩
  | finite s m e h =>
    cases s with
    | positive => exact Or.inr ⟨m, e, h, rfl⟩
    | negative =>
      rw [hx] at hnonneg
      exact absurd hnonneg Bool.false_ne_true

/-- A finite single that is not negative is read as it was written. -/
theorem single?_ofSingle {x : Float32} (hfinite : x.isFinite = true) (hnonneg : 0 ≤ x) :
    ∃ l, ofSingle? x = some l ∧ l.WellFormed ∧ l.single? = some x := by
  rw [ofSingle?]
  rcases unpack_of_finite hfinite hnonneg with ⟨s, hx⟩ | ⟨m, e, h, hx⟩
  · refine ⟨⟨s == .negative, [0], some [0], none⟩, by rw [hx], ⟨Or.inl rfl, ?_, nofun⟩, ?_⟩
    · intro ds hds
      cases hds
      exact nofun
    · rw [single?_zero, Rounding.eq_of_unpack hx]
  · have hbits : UnpackedFloat.unpack Format.binary32 x.toModel.toBits.toBitVec =
        .finite .positive m e h := hx
    obtain ⟨hc, hmax⟩ := Rounding.canonical_of_unpack (by decide) hbits
    have he : e ≤ 104 := by
      have : e + 127 + 23 + 1 < 256 := hmax
      omega
    have hf := Shortest.found_shortest hc.pos hc.short ⟨hc.bounded, he⟩
    obtain ⟨hparts, hform⟩ := ofDecimal_spec false hf.pos
    refine ⟨ofDecimal false (Shortest.shortest m e), by rw [hx]; rfl, wellFormed_ofDecimal _ hf.pos,
      ?_⟩
    have hsign := negative_ofDecimal false (Shortest.shortest m e)
    generalize Shortest.shortest m e = d at *
    have hsize : UInt64.size = 18446744073709551616 := rfl
    rcases hform with ⟨hdigits, hscale⟩ | ⟨hpos, hlt, hdigits, hscale⟩
    · have hshort := hf.short
      obtain ⟨hread, hsingle⟩ := ReadBack.reads_back hc he hf
      rw [single?_of_real hparts hsign (by omega) (by rw [hdigits, hscale]; exact hread), hsingle,
        Rounding.eq_of_unpack hx]
    · have hne : d.digits * tenTo d.exponent.toNat ≠ 0 :=
        Nat.mul_ne_zero hf.pos (Nat.pow_pos (by decide)).ne'
      have hbound : d.digits * tenTo d.exponent.toNat < 10000000000000 := hlt
      have hvalue : ((d.digits * tenTo d.exponent.toNat : Nat) : ℚ) =
          d.digits * 10 ^ d.exponent := by
        rw [← Int.toNat_of_nonneg hpos, zpow_natCast, Int.toNat_natCast, Nat.cast_mul,
          Rounding.cast_tenTo]
      have hwithin := hf.within
      rw [← hvalue] at hwithin
      obtain ⟨hread, hsingle⟩ := ReadBack.reads_back_exact hc hne (by omega) hwithin
      rw [single?_of_real hparts hsign (by omega) (by rw [hdigits, hscale]; exact hread), hsingle,
        Rounding.eq_of_unpack hx]

end FanBoard.Json.Literal
