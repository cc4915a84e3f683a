import FanBoard.Json.Basic

/-!
# Reading a JSON document

A reader takes a value off the front of a text and gives the rest.  Blanks are allowed between any
two tokens.  `Json.read?` reads a whole document.

The reader of values counts down from a number that the length of the text bounds: every nested
value and every item takes at least one character.
-/

namespace FanBoard.Json

/-- The four characters that may stand between tokens. -/
def isBlank (c : Char) : Bool :=
  c == ' ' || c == '\t' || c == '\n' || c == '\r'

/-- The text without the blanks at its front. -/
def skipBlank (cs : List Char) : List Char :=
  cs.dropWhile isBlank

/-- The value of a hexadecimal digit. -/
def hexDigit? (c : Char) : Option Nat :=
  let n := c.toNat
  if 48 ≤ n ∧ n ≤ 57 then some (n - 48)
  else if 65 ≤ n ∧ n ≤ 70 then some (n - 55)
  else if 97 ≤ n ∧ n ≤ 102 then some (n - 87)
  else none

/-- The code unit of four hexadecimal digits. -/
def hexUnit? (a b c d : Char) : Option UInt16 := do
  let a ← hexDigit? a
  let b ← hexDigit? b
  let c ← hexDigit? c
  let d ← hexDigit? d
  return UInt16.ofNat (((a * 16 + b) * 16 + c) * 16 + d)

/-- The code unit of a one-letter escape. -/
def escape? : Char → Option UInt16
  | '"' => some 0x22
  | '\\' => some 0x5C
  | '/' => some 0x2F
  | 'b' => some 0x08
  | 'f' => some 0x0C
  | 'n' => some 0x0A
  | 'r' => some 0x0D
  | 't' => some 0x09
  | _ => none

/-- Reads a text after its opening quote, up to and with the closing one.  A control character may
not stand in it as itself. -/
def scanText : List Char → Option (List UInt16 × List Char)
  | [] => none
  | '"' :: rest => some ([], rest)
  | '\\' :: 'u' :: a :: b :: c :: d :: rest => do
    let u ← hexUnit? a b c d
    let (us, after) ← scanText rest
    return (u :: us, after)
  | '\\' :: e :: rest => do
    let u ← escape? e
    let (us, after) ← scanText rest
    return (u :: us, after)
  | c :: rest =>
    if c.toNat < 0x20 || c == '\\' then none
    else do
      let (us, after) ← scanText rest
      return (Utf16.units c ++ us, after)

mutual

def scanValue : Nat → List Char → Option (Json × List Char)
  | 0, _ => none
  | fuel + 1, cs =>
    match skipBlank cs with
    | 'n' :: 'u' :: 'l' :: 'l' :: rest => some (.null, rest)
    | 't' :: 'r' :: 'u' :: 'e' :: rest => some (.bool true, rest)
    | 'f' :: 'a' :: 'l' :: 's' :: 'e' :: rest => some (.bool false, rest)
    | '"' :: rest => do
      let (us, after) ← scanText rest
      return (.text us, after)
    | '[' :: rest =>
      match skipBlank rest with
      | ']' :: after => some (.array [], after)
      | rest => do
        let (items, after) ← scanItems fuel rest
        return (.array items, after)
    | '\x7b' :: rest =>
      match skipBlank rest with
      | '\x7d' :: after => some (.object [], after)
      | rest => do
        let (members, after) ← scanMembers fuel rest
        return (.object members, after)
    | cs => do
      let (l, after) ← Literal.scan cs
      return (.number l, after)

/-- Reads the items of an array up to and with the closing bracket. -/
def scanItems : Nat → List Char → Option (List Json × List Char)
  | 0, _ => none
  | fuel + 1, cs => do
    let (item, rest) ← scanValue fuel cs
    match skipBlank rest with
    | ',' :: rest => do
      let (items, after) ← scanItems fuel rest
      return (item :: items, after)
    | ']' :: after => some ([item], after)
    | _ => none

/-- Reads the members of an object up to and with the closing brace. -/
def scanMembers : Nat → List Char → Option (List (List UInt16 × Json) × List Char)
  | 0, _ => none
  | fuel + 1, cs =>
    match skipBlank cs with
    | '"' :: rest => do
      let (name, rest) ← scanText rest
      match skipBlank rest with
      | ':' :: rest => do
        let (value, rest) ← scanValue fuel rest
        match skipBlank rest with
        | ',' :: rest => do
          let (members, after) ← scanMembers fuel rest
          return ((name, value) :: members, after)
        | '\x7d' :: after => some ([(name, value)], after)
        | _ => none
      | _ => none
    | _ => none

end

/-- The value that a whole text spells. -/
def read? (s : String) : Option Json :=
  let cs := s.toList
  match scanValue (2 * cs.length + 2) cs with
  | some (value, rest) => if (skipBlank rest).isEmpty then some value else none
  | none => none

end FanBoard.Json
