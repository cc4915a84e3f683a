/-!
# UTF-16 code units

JSON escapes a character by its UTF-16 code units, so a text read from a document is a list of code
units.  `units` gives the units of a character.  `decode?` puts them together again and fails on a
surrogate that stands alone.
-/

namespace FanBoard.Utf16

/-- The code units of one character: one, or a leading and a trailing surrogate. -/
def units (c : Char) : List UInt16 :=
  let n := c.toNat
  if n < 0x10000 then [UInt16.ofNat n]
  else
    let high := (n - 0x10000) / 0x400
    let low := (n - 0x10000) % 0x400
    [UInt16.ofNat (0xD800 + high), UInt16.ofNat (0xDC00 + low)]

/-- Whether a unit is the first of a surrogate pair. -/
def isLeading (u : UInt16) : Bool :=
  0xD800 ≤ u && u ≤ 0xDBFF

/-- Whether a unit is the second of a surrogate pair. -/
def isTrailing (u : UInt16) : Bool :=
  0xDC00 ≤ u && u ≤ 0xDFFF

/-- The character of a surrogate pair. -/
def pair (u v : UInt16) : Char :=
  Char.ofNat (0x10000 + (u.toNat - 0xD800) * 0x400 + (v.toNat - 0xDC00))

/-- The characters spelled by code units, unless a surrogate stands alone. -/
def decode? : List UInt16 → Option (List Char)
  | [] => some []
  | [u] => if isLeading u || isTrailing u then none else some [Char.ofNat u.toNat]
  | u :: v :: rest =>
    if isLeading u then
      if isTrailing v then (decode? rest).map (pair u v :: ·) else none
    else if isTrailing u then none
    else (decode? (v :: rest)).map (Char.ofNat u.toNat :: ·)

/-- The code units of a text. -/
def encode (s : String) : List UInt16 :=
  s.toList.flatMap units

end FanBoard.Utf16
