import FanBoard.Text.Printable

/-!
# Quoted text

A text between quotes in which every character is visible.  The quote, the backslash, the tab and
the line ends have an escape of one letter, and any other character without a visible form is shown
by its code point in hexadecimal.
-/

namespace FanBoard.Quoted

/-- The code point of a character between braces. -/
def codePoint (c : Char) : List Char :=
  '\\' :: 'u' :: '\x7b' :: Nat.toDigits 16 c.toNat ++ ['\x7d']

/-- One character inside the quotes. -/
def escape (c : Char) : List Char :=
  match c with
  | '\x00' => ['\\', '0']
  | '\t' => ['\\', 't']
  | '\r' => ['\\', 'r']
  | '\n' => ['\\', 'n']
  | '"' => ['\\', '"']
  | '\\' => ['\\', '\\']
  | c => if Printable.isPrintable c then [c] else codePoint c

/-- The text between quotes. -/
def quote (s : String) : String :=
  String.ofList ('"' :: s.toList.flatMap escape ++ ['"'])

end FanBoard.Quoted
