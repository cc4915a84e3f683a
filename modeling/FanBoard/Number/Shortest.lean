import FanBoard.Number.Power
import FanBoard.Number.Single

/-!
# The shortest decimal that reads back

Every decimal near enough to a single reads back as that single.  The reals that do so form an
interval around its value, the `Catchment`.  Its ends belong to it exactly when the mantissa is
even, because a tie is read to the even mantissa.

`shortest` looks through the grids of the multiples of `10 ^ k`, coarse ones first, and takes the
first grid that has a point in the interval.  If any point of a grid is in the interval, then so is
one of the two neighbours of the value on that grid, so only these two are tried.  Of two hits the
nearer one wins, and of two equally near ones the even one.

All comparisons are made on whole numbers.
-/

namespace FanBoard.Shortest

/-- A positive decimal `digits * 10 ^ exponent`. -/
structure Decimal where
  /-- The digits as one number. -/
  digits : Nat
  /-- The power of ten of the last digit. -/
  exponent : Int
deriving Repr, DecidableEq

/-- The reals that read back as one positive single, all counted in `2 ^ scale`. -/
structure Catchment where
  /-- The lower end. -/
  low : Nat
  /-- The value itself. -/
  mid : Nat
  /-- The upper end. -/
  high : Nat
  /-- The binary exponent of the unit. -/
  scale : Int
  /-- Whether the ends read back too. -/
  closed : Bool
deriving Repr, DecidableEq

/-- The interval around `m * 2 ^ e`.  Below a power of two the singles lie twice as dense, so the
lower end is nearer there. -/
def Catchment.ofParts (m : Nat) (e : Int) : Catchment where
  low := if m = twoTo 23 ∧ -149 < e then 4 * m - 1 else 4 * m - 2
  mid := 4 * m
  high := 4 * m + 2
  scale := e - 2
  closed := m % 2 == 0

/-- `c * 10 ^ k` and `n * 2 ^ s` multiplied by the same positive number, so that both are whole. -/
def wholes (c : Nat) (k : Int) (n : Nat) (s : Int) : Nat × Nat :=
  (c * tenTo k.toNat * twoTo (-s).toNat, n * twoTo s.toNat * tenTo (-k).toNat)

/-- Whether `c * 10 ^ k` reads back. -/
def Catchment.holds (i : Catchment) (c : Nat) (k : Int) : Bool :=
  let (p, low) := wholes c k i.low i.scale
  let (_, high) := wholes c k i.high i.scale
  if i.closed then low ≤ p && p ≤ high else low < p && p < high

/-- The greatest multiple of `10 ^ k` that is at most the value, counted in `10 ^ k`. -/
def Catchment.below (i : Catchment) (k : Int) : Nat :=
  (i.mid * twoTo i.scale.toNat * tenTo (-k).toNat) / (twoTo (-i.scale).toNat * tenTo k.toNat)

/-- The point of the grid of `10 ^ k` that reads back and is nearest to the value. -/
def Catchment.onGrid (i : Catchment) (k : Int) : Option Decimal :=
  let c := i.below k
  match i.holds c k, i.holds (c + 1) k with
  | true, true =>
    let (twice, middle) := wholes (2 * c + 1) k (2 * i.mid) i.scale
    if middle < twice then some ⟨c, k⟩
    else if twice < middle then some ⟨c + 1, k⟩
    else some ⟨c + c % 2, k⟩
  | true, false => some ⟨c, k⟩
  | false, true => some ⟨c + 1, k⟩
  | false, false => none

/-- The grids that are looked through.  The first is coarser than every single, and the last is
finer than the distance between the two smallest. -/
def grids : List Int :=
  (List.range 90).map fun n : Nat => 40 - (n : Int)

/-- The shortest decimal that reads back as the single `m * 2 ^ e`. -/
def shortest (m : Nat) (e : Int) : Decimal :=
  ((grids.findSome? (Catchment.ofParts m e).onGrid).getD ⟨0, 0⟩)

end FanBoard.Shortest
