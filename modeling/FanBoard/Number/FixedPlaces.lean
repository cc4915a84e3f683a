import FanBoard.Number.Power
import FanBoard.Number.Single

/-!
# Decimal text with a fixed number of places

The exact decimal value of a single, rounded to a given number of places.  A tie goes to the even
last digit.  The sign of the single is written also where the rounded value is zero.

* `roundDiv` is the one rounding rule.
* `places` writes a whole number of units of `10 ^ -n` with a point.
* `FixedPlaces.text` is the text of a single.
-/

namespace FanBoard.FixedPlaces

open Float.Model.UnpackedFloat (Sign)

/-- `num / den` to the nearest whole number, a tie to the even one. -/
def roundDiv (num den : Nat) : Nat :=
  let quotient := num / den
  let twice := 2 * (num % den)
  if twice < den then quotient
  else if den < twice then quotient + 1
  else quotient + quotient % 2

/-- `units` counted in `10 ^ -n`, written with a point before the last `n` digits. -/
def places (n units : Nat) : String :=
  let digits := Nat.toDigits 10 units
  let padded := List.replicate (n + 1 - digits.length) '0' ++ digits
  let whole := padded.take (padded.length - n)
  let rest := padded.drop (padded.length - n)
  String.ofList (if n = 0 then whole else whole ++ '.' :: rest)

/-- A minus for a negative sign and nothing for a positive one. -/
def signText : Sign → String
  | .positive => ""
  | .negative => "-"

/-- The text of `x` with `n` decimal places. -/
def text (n : Nat) (x : Float32) : String :=
  match Single.unpack x with
  | .notANumber => "NaN"
  | .infinity s => signText s ++ "inf"
  | .zero s => signText s ++ places n 0
  | .finite s m e _ =>
    signText s ++ places n (roundDiv (m * tenTo n * twoTo e.toNat) (twoTo (-e).toNat))

end FanBoard.FixedPlaces
