import FanBoard.Json.Basic

/-!
# Records in a JSON document

A record type is described by its fields in order, each with a name and a way to take its value
from a document.  A record is written in one of two ways:

* as an object, in any order, with members of other names between.  A field that is not named keeps
  its starting value, and one that is named twice makes the document no record.
* as an array of the values of its first fields.  The fields after them keep their starting values.
-/

namespace FanBoard.Json

/-- A field of the record type `α`. -/
structure Field (α : Type) where
  /-- The name in an object. -/
  name : String
  /-- Puts the value of the field, taken from a document, into the record. -/
  put : Json → α → Option α

namespace Field

variable {α : Type}

/-- A truth value. -/
def bool (name : String) (put : Bool → α → α) : Field α :=
  ⟨name, fun j a => j.bool?.map (put · a)⟩

/-- A natural number of at most `bound`. -/
def natural (name : String) (bound : Nat) (put : Nat → α → α) : Field α :=
  ⟨name, fun j a => (j.natural? bound).map (put · a)⟩

def single (name : String) (put : Float32 → α → α) : Field α :=
  ⟨name, fun j a => j.single?.map (put · a)⟩

/-- Reads the members of an object into a record.  `seen` holds the names of the fields that are
already set. -/
def ofMembers (fields : List (Field α)) :
    List String → α → List (List UInt16 × Json) → Option α
  | _, a, [] => some a
  | seen, a, (key, value) :: members => do
    let name := String.ofList (← Utf16.decode? key)
    match fields.find? fun f => f.name == name with
    | none => ofMembers fields seen a members
    | some f =>
      if seen.contains name then none
      else ofMembers fields (name :: seen) (← f.put value a) members

/-- Reads the items of an array into a record, one for each field. -/
def ofItems : List (Field α) → α → List Json → Option α
  | _, a, [] => some a
  | [], _, _ :: _ => none
  | f :: fields, a, item :: items => do ofItems fields (← f.put item a) items

/-- Reads a record that starts as `a`. -/
def record? (fields : List (Field α)) (a : α) : Json → Option α
  | .object members => ofMembers fields [] a members
  | .array items => ofItems fields a items
  | _ => none

end Field

end FanBoard.Json
