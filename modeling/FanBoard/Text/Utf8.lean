/-!
# Reading bytes as UTF-8

`decodeLossy` reads any bytes as text.  Bytes that spell a character give that character.  Each
longest run of bytes that starts a character but does not finish it gives one replacement
character, and so does each byte that starts none.

The reader is a machine that takes one byte at a time, so it is structurally recursive and its
state says what the next byte may be.
-/

namespace FanBoard.Utf8

/-- Where the reader stands. -/
inductive Reader where
  /-- Between two characters. -/
  | between
  /-- Inside a character: the bits so far, the number of bytes still to come, and the least and
  the greatest value that the next byte may have. -/
  | inside (bits left : Nat) (least greatest : UInt8)
deriving Repr, DecidableEq

/-- Stands for bytes that spell no character. -/
def replacement : Char :=
  Char.ofNat 0xFFFD

/-- Takes the first byte of a character. -/
def Reader.first (b : UInt8) : List Char × Reader :=
  let n := b.toNat
  if n < 0x80 then ([Char.ofNat n], .between)
  else if 0xC2 ≤ n ∧ n ≤ 0xDF then ([], .inside (n - 0xC0) 1 0x80 0xBF)
  else if n = 0xE0 then ([], .inside 0 2 0xA0 0xBF)
  else if n = 0xED then ([], .inside 0xD 2 0x80 0x9F)
  else if 0xE1 ≤ n ∧ n ≤ 0xEF then ([], .inside (n - 0xE0) 2 0x80 0xBF)
  else if n = 0xF0 then ([], .inside 0 3 0x90 0xBF)
  else if 0xF1 ≤ n ∧ n ≤ 0xF3 then ([], .inside (n - 0xF0) 3 0x80 0xBF)
  else if n = 0xF4 then ([], .inside 4 3 0x80 0x8F)
  else ([replacement], .between)

/-- Takes one byte and gives the characters that it completes. -/
def Reader.take : Reader → UInt8 → List Char × Reader
  | .between, b => first b
  | .inside bits left least greatest, b =>
    if least ≤ b ∧ b ≤ greatest then
      let bits := bits * 64 + b.toNat % 64
      if left ≤ 1 then ([Char.ofNat bits], .between) else ([], .inside bits (left - 1) 0x80 0xBF)
    else
      let (cs, after) := first b
      (replacement :: cs, after)

/-- The characters that the bytes spell from a state of the reader on. -/
def Reader.run : Reader → List UInt8 → List Char
  | .between, [] => []
  | .inside .., [] => [replacement]
  | reader, b :: bytes =>
    let (cs, after) := reader.take b
    cs ++ after.run bytes

/-- The text that bytes spell, with replacement characters for what spells none. -/
def decodeLossy (bytes : List UInt8) : String :=
  String.ofList (Reader.run .between bytes)

/-- The text that bytes spell, if all of them spell characters. -/
def decode? (bytes : List UInt8) : Option String :=
  String.fromUTF8? ⟨bytes.toArray⟩

/-- The bytes of a text. -/
def encode (s : String) : List UInt8 :=
  s.toUTF8.toList

end FanBoard.Utf8
