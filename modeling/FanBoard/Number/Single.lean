import FanBoard.Number.Power

/-!
# Single precision: the rules beyond arithmetic

`Float32` brings the operations and comparisons of IEEE 754 binary32.  This file adds the rules
that the board needs on top of them, all stated on the unpacked value:

* `ofNat` and `ofDouble` round to the nearest single, a tie to the even mantissa.
* `roundHalfAway` rounds to a whole number, a half away from zero.
* `clamp` and `floorAtZero` bound a value.  A comparison with a value that is not a number fails,
  so `clamp` keeps such a value and `floorAtZero` replaces it.
-/

namespace FanBoard.Single

open Float.Model (Format UnpackedFloat)

/-- A single as infinity, not a number, a signed zero, or a sign, a mantissa and a binary
exponent. -/
def unpack (x : Float32) : UnpackedFloat :=
  x.toModel.unpack

/-- The nearest single to `± m * 2 ^ e`, a tie to the even mantissa. -/
def ofParts (sign : UnpackedFloat.Sign) (m : Nat) (e : Int) : Float32 :=
  .ofModel (.pack (UnpackedFloat.round Format.binary32 sign m e))

/-- The nearest single to a natural number. -/
def ofNat (n : Nat) : Float32 :=
  ofParts .positive n 0

/-- The nearest single to a double.  Past the largest single this is an infinity. -/
def ofDouble (x : Float) : Float32 :=
  match x.toModel.unpack with
  | .finite s m e _ => ofParts s m e
  | special => .ofModel (.pack special)

/-- The nearest whole number, a half away from zero.  The sign stays, also on a zero. -/
def roundHalfAway (x : Float32) : Float32 :=
  match unpack x with
  | .finite s m e _ =>
    if 0 ≤ e then x
    else
      let unit := twoTo (-e).toNat
      ofParts s ((2 * m + unit) / (2 * unit)) 0
  | _ => x

/-- `x` brought into the range from `lo` to `hi`. -/
def clamp (x lo hi : Float32) : Float32 :=
  if x < lo then lo else if hi < x then hi else x

/-- `x` where it is positive, and zero elsewhere. -/
def floorAtZero (x : Float32) : Float32 :=
  if 0 < x then x else 0

end FanBoard.Single
