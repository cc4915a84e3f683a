import FanBoard.Json.Basic

/-!
# Writing a JSON document

The compact form: no blanks, members in their order.  Inside a text the quote, the backslash, the
control characters and the surrogates are escaped by their code units.
-/

namespace FanBoard.Json

/-- The character of a hexadecimal digit. -/
def hexChar (n : Nat) : Char :=
  Char.ofNat (if n < 10 then 48 + n else 87 + n)

/-- A code unit as four hexadecimal digits. -/
def hexText (u : UInt16) : List Char :=
  let n := u.toNat
  [hexChar (n / 4096), hexChar (n / 256 % 16), hexChar (n / 16 % 16), hexChar (n % 16)]

/-- A code unit inside a text. -/
def unitText (u : UInt16) : List Char :=
  if u < 0x20 || u == 0x22 || u == 0x5C || Utf16.isLeading u || Utf16.isTrailing u then
    '\\' :: 'u' :: hexText u
  else [Char.ofNat u.toNat]

def textText (us : List UInt16) : List Char :=
  '"' :: us.flatMap unitText ++ ['"']

mutual

def chars : Json → List Char
  | .null => ['n', 'u', 'l', 'l']
  | .bool true => ['t', 'r', 'u', 'e']
  | .bool false => ['f', 'a', 'l', 's', 'e']
  | .number l => l.text
  | .text us => textText us
  | .array items => '[' :: itemChars items ++ [']']
  | .object members => '\x7b' :: memberChars members ++ ['\x7d']

/-- The items of an array with commas between them. -/
def itemChars : List Json → List Char
  | [] => []
  | [item] => chars item
  | item :: items => chars item ++ ',' :: itemChars items

/-- The members of an object with commas between them. -/
def memberChars : List (List UInt16 × Json) → List Char
  | [] => []
  | [(name, value)] => textText name ++ ':' :: chars value
  | (name, value) :: members => textText name ++ ':' :: chars value ++ ',' :: memberChars members

end

/-- The compact text of a value. -/
def compact (j : Json) : String :=
  String.ofList (chars j)

end FanBoard.Json
