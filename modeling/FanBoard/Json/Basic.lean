import FanBoard.Json.Number
import FanBoard.Text.Utf16

/-!
# JSON values

A document as a tree.  Numbers stay literals, texts stay code units, and the members of an object
keep their order and their repetitions, so the tree holds all that a reader of a document can ask.
-/

namespace FanBoard

/-- A JSON value. -/
inductive Json where
  | null
  | bool (b : Bool)
  | number (l : Json.Literal)
  | text (units : List UInt16)
  | array (items : List Json)
  | object (members : List (List UInt16 × Json))

namespace Json

/-- A natural number. -/
def ofNat (n : Nat) : Json :=
  .number (.ofNat n)

/-- A single: the shortest number that reads back, or null where it is not finite. -/
def ofSingle (x : Float32) : Json :=
  match Literal.ofSingle? x with
  | some l => .number l
  | none => .null

/-- An object with the given members in order. -/
def ofMembers (members : List (String × Json)) : Json :=
  .object (members.map fun (name, value) => (Utf16.encode name, value))

/-- The truth value, if it is one. -/
def bool? : Json → Option Bool
  | .bool b => some b
  | _ => none

/-- The natural number of at most `bound`, if it is one. -/
def natural? (bound : Nat) : Json → Option Nat
  | .number l => l.natural? bound
  | _ => none

/-- The number as a single, if it is one. -/
def single? : Json → Option Float32
  | .number l => l.single?
  | _ => none

end Json

end FanBoard
