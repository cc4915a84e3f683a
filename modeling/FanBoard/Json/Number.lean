import FanBoard.Number.Power
import FanBoard.Number.Single
import FanBoard.Number.Shortest

/-!
# Numbers in a JSON document

A `Literal` keeps a number as it is written, digit by digit, so reading a document never loses or
rejects a number that nobody asks for.

`Literal.amount?` is the value of a literal.  Its digits are taken into a 64-bit significand for as
long as they fit.  A whole digit that does not fit, and every whole digit after it, only raises the
power of ten.  A fraction digit that does not fit, and every one after it, is dropped.  A literal
with neither fraction nor exponent whose digits all fit is an integer.  Any other one is a double,
the significand multiplied or divided once by a power of ten.  A magnitude past the doubles has no
value.

`Literal.ofNat` and `Literal.ofSingle` write numbers.
-/

namespace FanBoard.Json

/-! ## Digits -/

/-- A decimal digit. -/
abbrev Digit := Fin 10

/-- The character of a digit. -/
def Digit.toChar (d : Digit) : Char :=
  Char.ofNat (48 + d.val)

/-- The digit that a character stands for. -/
def Digit.ofChar? (c : Char) : Option Digit :=
  if h : 48 ≤ c.toNat ∧ c.toNat < 58 then some ⟨c.toNat - 48, by omega⟩ else none

/-- The decimal digits of a natural number, the highest first. -/
def Digit.ofNat (n : Nat) : List Digit :=
  if n < 10 then [Fin.ofNat 10 n] else Digit.ofNat (n / 10) ++ [Fin.ofNat 10 n]
termination_by n
decreasing_by omega

/-- The natural number that digits spell. -/
def Digit.toNat (ds : List Digit) : Nat :=
  ds.foldl (fun n d => 10 * n + d.val) 0

/-- The digits at the front of a text, and the rest of it. -/
def Digit.scan : List Char → List Digit × List Char
  | [] => ([], [])
  | c :: rest =>
    match Digit.ofChar? c with
    | some d => let (ds, after) := Digit.scan rest; (d :: ds, after)
    | none => ([], c :: rest)

/-! ## Literals -/

/-- How the sign of an exponent is written. -/
inductive Marker where
  | bare
  | plus
  | minus
deriving Repr, DecidableEq

/-- A number as it is written. -/
structure Literal where
  /-- Whether a minus stands in front. -/
  negative : Bool
  /-- The digits before the point. -/
  whole : List Digit
  /-- The digits after the point, if there is one. -/
  fraction : Option (List Digit)
  /-- The exponent, if there is one. -/
  exponent : Option (Marker × List Digit)
deriving Repr, DecidableEq

namespace Literal

/-- Reads the digits before the point.  A leading zero stands alone. -/
def scanWhole : List Char → Option (List Digit × List Char)
  | '0' :: rest => some ([0], rest)
  | cs =>
    match Digit.scan cs with
    | ([], _) => none
    | (ds, rest) => some (ds, rest)

/-- Reads the point and the digits after it, of which there is at least one. -/
def scanFraction : List Char → Option (Option (List Digit) × List Char)
  | '.' :: cs =>
    match Digit.scan cs with
    | ([], _) => none
    | (ds, rest) => some (some ds, rest)
  | cs => some (none, cs)

/-- Reads the digits of an exponent, of which there is at least one. -/
def scanPower (marker : Marker) (cs : List Char) :
    Option (Option (Marker × List Digit) × List Char) :=
  match Digit.scan cs with
  | ([], _) => none
  | (ds, rest) => some (some (marker, ds), rest)

/-- Reads the exponent mark, the sign and the digits after it. -/
def scanExponent : List Char → Option (Option (Marker × List Digit) × List Char)
  | 'e' :: '+' :: cs | 'E' :: '+' :: cs => scanPower .plus cs
  | 'e' :: '-' :: cs | 'E' :: '-' :: cs => scanPower .minus cs
  | 'e' :: cs | 'E' :: cs => scanPower .bare cs
  | cs => some (none, cs)

/-- Reads a number after its sign. -/
def scanUnsigned (negative : Bool) (cs : List Char) : Option (Literal × List Char) := do
  let (whole, cs) ← scanWhole cs
  let (fraction, cs) ← scanFraction cs
  let (exponent, cs) ← scanExponent cs
  return (⟨negative, whole, fraction, exponent⟩, cs)

/-- Reads a number. -/
def scan : List Char → Option (Literal × List Char)
  | '-' :: cs => scanUnsigned true cs
  | cs => scanUnsigned false cs

/-- The sign of an exponent as it is written. -/
def markerText : Marker → List Char
  | .bare => []
  | .plus => ['+']
  | .minus => ['-']

/-- Writes a number. -/
def text (l : Literal) : List Char :=
  (if l.negative then ['-'] else []) ++ l.whole.map Digit.toChar
    ++ (match l.fraction with
        | some ds => '.' :: ds.map Digit.toChar
        | none => [])
    ++ (match l.exponent with
        | some (m, ds) => 'e' :: markerText m ++ ds.map Digit.toChar
        | none => [])

/-! ## Values -/

/-- The value of a literal. -/
inductive Amount where
  /-- A natural number. -/
  | natural (n : Nat)
  /-- A negative integer, given by its magnitude. -/
  | negative (n : Nat)
  /-- A double. -/
  | real (x : Float)

/-- Takes digits into the number `s` while it stays below `2 ^ 64`, and gives the digits left. -/
def absorb : Nat → List Digit → Nat × List Digit
  | s, [] => (s, [])
  | s, d :: ds => if 10 * s + d.val < UInt64.size then absorb (10 * s + d.val) ds else (s, d :: ds)

/-- The nearest double to a natural number. -/
def double (n : Nat) : Float :=
  .ofModel (.ofNat n)

/-- `x * 10 ^ e` by one multiplication or division, in steps of `10 ^ 308` where the power itself
is no double.  A result past the doubles is none. -/
def scaleTen (x : Float) (e : Int) : Option Float :=
  if e.natAbs ≤ 308 then
    if 0 ≤ e then
      let y := x * double (tenTo e.toNat)
      if y.isInf then none else some y
    else some (x / double (tenTo (-e).toNat))
  else if x == 0 then some x
  else if 0 ≤ e then none
  else scaleTen (x / double (tenTo 308)) (e + 308)
termination_by (-e).toNat
decreasing_by omega

/-- The exponent as a number. -/
def power (l : Literal) : Int :=
  match l.exponent with
  | none => 0
  | some (.minus, ds) => -(Digit.toNat ds : Int)
  | some (_, ds) => Digit.toNat ds

/-- The value of a literal that has a fraction, an exponent, or digits that do not fit. -/
def real? (l : Literal) : Option Float :=
  let (s, excess) := absorb 0 l.whole
  let digits := l.fraction.getD []
  let (s, left) := absorb s digits
  let exponent : Int := excess.length - (digits.length - left.length : Nat) + l.power
  (scaleTen (double s) exponent).map fun x => if l.negative then -x else x

/-- The value of a literal.  Minus zero is a double, and so is an integer below `-2 ^ 63`. -/
def amount? (l : Literal) : Option Amount :=
  match l.fraction, l.exponent, absorb 0 l.whole with
  | none, none, (n, []) =>
    if !l.negative then some (.natural n)
    else if n = 0 ∨ twoTo 63 < n then some (.real (-double n))
    else some (.negative n)
  | _, _, _ => l.real?.map .real

/-- The value as a natural number of at most `bound`. -/
def natural? (l : Literal) (bound : Nat) : Option Nat :=
  match l.amount? with
  | some (.natural n) => if n ≤ bound then some n else none
  | _ => none

/-- The value as a single.  An integer is rounded once and a double once more. -/
def single? (l : Literal) : Option Float32 :=
  l.amount?.map fun
    | .natural n => Single.ofNat n
    | .negative n => -Single.ofNat n
    | .real x => Single.ofDouble x

/-! ## Writing numbers -/

/-- A natural number as a literal. -/
def ofNat (n : Nat) : Literal :=
  ⟨false, Digit.ofNat n, none, none⟩

/-- A decimal with the point after its first `point` digits.  From `10 ^ -6` and below `10 ^ 13` it
is written out with at least one digit on either side of the point.  Elsewhere the first digit
stands before the point and an exponent follows. -/
def ofDecimal (negative : Bool) (d : Shortest.Decimal) : Literal :=
  let ds := Digit.ofNat d.digits
  let point : Int := ds.length + d.exponent
  if 0 ≤ d.exponent ∧ point ≤ 13 then
    ⟨negative, ds ++ List.replicate d.exponent.toNat 0, some [0], none⟩
  else if 0 < point ∧ point ≤ 13 then
    ⟨negative, ds.take point.toNat, some (ds.drop point.toNat), none⟩
  else if -6 < point ∧ point ≤ 0 then
    ⟨negative, [0], some (List.replicate (-point).toNat 0 ++ ds), none⟩
  else
    let fraction := if ds.length = 1 then none else some (ds.drop 1)
    let marker : Marker := if point - 1 < 0 then .minus else .plus
    ⟨negative, ds.take 1, fraction, some (marker, Digit.ofNat (point - 1).natAbs)⟩

/-- The shortest literal that reads back as `x`, for a finite `x`. -/
def ofSingle? (x : Float32) : Option Literal :=
  match Single.unpack x with
  | .zero s => some ⟨s == .negative, [0], some [0], none⟩
  | .finite s m e _ => some (ofDecimal (s == .negative) (Shortest.shortest m e))
  | _ => none

end Literal

end FanBoard.Json
