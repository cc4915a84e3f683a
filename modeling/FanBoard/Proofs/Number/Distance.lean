import FanBoard.Proofs.Number.Packing

/-!
# The distance between two singles

A difference that is taken the other way round has the other sign, and else it is the same.  The
difference is computed on unpacked values, rounded, packed, and unpacked again for its absolute
value.

* `abs_unpacked_sub_comm`: rounding looks at the size of a difference and not at its sign, so the
  two unpacked differences have one absolute value.
* `abs_unpack_pack`: the sign has a bit of its own, so packing keeps it apart from the rest.
* `Single.abs_sub_comm` puts the two together.
-/

namespace FanBoard.Rounding

open Float.Model (Format UnpackedFloat)
open Float.Model.UnpackedFloat

variable {spec : Format}

/-! ## The unpacked difference -/

theorem abs_round (spec : Format) (s t : Sign) (m : Nat) (e : Int) :
    (UnpackedFloat.round spec s m e).abs = (UnpackedFloat.round spec t m e).abs := by
  unfold UnpackedFloat.round roundWithAccuracy
  dsimp only
  split <;> rfl

theorem abs_normalize_neg (spec : Format) (k e : Int) (s : Sign) :
    (UnpackedFloat.normalize spec (-k) e s).abs = (UnpackedFloat.normalize spec k e s).abs := by
  unfold UnpackedFloat.normalize
  rcases Int.lt_trichotomy k 0 with hneg | rfl | hpos
  · rw [compare_lt_iff_lt.mpr hneg, compare_gt_iff_gt.mpr (by omega)]
    exact abs_round ..
  · rfl
  · rw [compare_gt_iff_gt.mpr hpos, compare_lt_iff_lt.mpr (by omega : -k < 0), Int.neg_neg]
    exact abs_round ..

theorem abs_unpacked_sub_comm (spec : Format) (a b : UnpackedFloat) :
    (a.sub spec b).abs = (b.sub spec a).abs := by
  cases a with
  | notANumber => cases b <;> rfl
  | infinity s =>
    cases b with
    | infinity t => cases s <;> cases t <;> rfl
    | notANumber | zero t | finite t m e h => rfl
  | zero s =>
    cases b with
    | zero t => cases s <;> cases t <;> rfl
    | notANumber | infinity t | finite t m e h => rfl
  | finite s m e h =>
    cases b with
    | notANumber | infinity t | zero t => rfl
    | finite t m' e' h' =>
      simp only [sub, Int.min_comm e' e]
      rw [← Int.neg_sub, abs_normalize_neg]

/-! ## The packed difference -/

theorem abs_unpack_packComponents (s t : Sign) (e : BitVec spec.exponentBits)
    (m : BitVec spec.mantissaBitsWithoutImplicit) :
    (unpack spec (packComponents spec s e m)).abs =
      (unpack spec (packComponents spec t e m)).abs := by
  unfold unpack
  simp only [unpackMantissa_packComponents, unpackExponent_packComponents]
  split
  · split <;> rfl
  · split
    · split <;> rfl
    · rfl

theorem abs_unpack_pack (u : UnpackedFloat) :
    (unpack spec (pack spec u)).abs = (unpack spec (pack spec u.abs)).abs := by
  cases u with
  | notANumber => rfl
  | infinity s | zero s => exact abs_unpack_packComponents ..
  | finite s m e h =>
    rw [show (finite s m e h).abs = finite .positive m e h from rfl, pack, pack]
    split
    · exact abs_unpack_packComponents ..
    · split <;> exact abs_unpack_packComponents ..

end FanBoard.Rounding

namespace FanBoard.Single

open Float.Model (Format UnpackedFloat)

theorem abs_ofModel_pack (u : UnpackedFloat) :
    (Float32.ofModel (.pack u)).abs = (Float32.ofModel (.pack u.abs)).abs :=
  congrArg (fun v => Float32.ofModel (.pack v)) (Rounding.abs_unpack_pack u)

/-- The distance between two values does not depend on their order. -/
theorem abs_sub_comm (x y : Float32) : (x - y).abs = (y - x).abs := by
  have hsub : ∀ x y : Float32,
      x - y = .ofModel (.pack ((unpack x).sub Format.binary32 (unpack y))) := fun _ _ => rfl
  rw [hsub, hsub, abs_ofModel_pack, Rounding.abs_unpacked_sub_comm, ← abs_ofModel_pack]

end FanBoard.Single
