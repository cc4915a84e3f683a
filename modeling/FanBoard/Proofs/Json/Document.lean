import FanBoard.Json.Printer
import FanBoard.Proofs.Json.Grammar
import FanBoard.Proofs.Text.Utf8

/-!
# Documents as they are written

A document that is written in the compact form is read again, since the compact form is one of its
texts.

* `TextSpells.flatMap`: the code units of a text, escaped or not.
* `Json.WellFormed`: all numbers of a document can be read.
* `spells_chars`: the compact form is a text of the value.  The induction goes over the value and
  the lists of its items and members together.
* `read?_compact`: the whole document.
-/

namespace FanBoard.Json

/-! ## Texts -/

theorem hexDigit?_hexChar : ∀ n < 16, hexDigit? (hexChar n) = some n := by
  decide

/-- A code unit is read from its four hexadecimal digits. -/
theorem hexUnit?_hexText (u : UInt16) :
    ∃ a b c d, hexText u = [a, b, c, d] ∧ hexUnit? a b c d = some u := by
  refine ⟨_, _, _, _, rfl, ?_⟩
  have hlt := u.toNat_lt
  have hvalue : ((u.toNat / 4096 * 16 + u.toNat / 256 % 16) * 16 + u.toNat / 16 % 16) * 16 +
      u.toNat % 16 = u.toNat := by omega
  simp only [hexUnit?, hexDigit?_hexChar _ (show u.toNat / 4096 < 16 by omega),
    hexDigit?_hexChar _ (show u.toNat / 256 % 16 < 16 by omega),
    hexDigit?_hexChar _ (show u.toNat / 16 % 16 < 16 by omega),
    hexDigit?_hexChar _ (show u.toNat % 16 < 16 by omega), Option.bind_eq_bind, Option.bind_some,
    Option.pure_def, hvalue, UInt16.ofNat_toNat]

/-- A unit that is written as itself: its character, and that no other rule of the reader takes
it. -/
theorem plain_unit {u : UInt16} (h : ¬(u < 0x20 || u == 0x22 || u == 0x5C || Utf16.isLeading u ||
    Utf16.isTrailing u) = true) :
    Utf16.units (Char.ofNat u.toNat) = [u] ∧ Char.ofNat u.toNat ≠ '"' ∧
      Char.ofNat u.toNat ≠ '\\' ∧ ¬(Char.ofNat u.toNat).toNat < 0x20 := by
  have hlt := u.toNat_lt
  simp only [Utf16.isLeading, Utf16.isTrailing, Bool.or_eq_true, Bool.and_eq_true, beq_iff_eq,
    decide_eq_true_eq, not_or, UInt16.lt_iff_toNat_lt, UInt16.le_iff_toNat_le, ← UInt16.toNat_inj,
    UInt16.toNat_ofNat] at h
  have hchar : (Char.ofNat u.toNat).toNat = u.toNat := toNat_charOfNat (by omega)
  refine ⟨?_, fun heq => ?_, fun heq => ?_, by omega⟩
  · simp only [Utf16.units, hchar, if_pos hlt, UInt16.ofNat_toNat]
  · rw [heq] at hchar
    have : (34 : Nat) = u.toNat := hchar
    omega
  · rw [heq] at hchar
    have : (92 : Nat) = u.toNat := hchar
    omega

/-- Code units are spelled by what is written for them. -/
theorem TextSpells.flatMap (us : List UInt16) : TextSpells us (us.flatMap unitText) := by
  induction us with
  | nil => exact .nil
  | cons u us ih =>
    rw [List.flatMap_cons, unitText]
    split
    · obtain ⟨a, b, c, d, htext, hunit⟩ := hexUnit?_hexText u
      rw [htext]
      exact .code hunit ih
    · rename_i hplain
      obtain ⟨hunits, hquote, hslash, hcontrol⟩ := plain_unit hplain
      have hspells := TextSpells.plain (Nat.le_of_not_lt hcontrol) hquote hslash ih
      rwa [hunits] at hspells

/-! ## The tree -/

mutual

/-- All numbers in a value can be read. -/
def WellFormed : Json → Prop
  | .number l => l.WellFormed
  | .array items => ItemsWellFormed items
  | .object members => MembersWellFormed members
  | .null | .bool _ | .text _ => True

def ItemsWellFormed : List Json → Prop
  | [] => True
  | item :: items => WellFormed item ∧ ItemsWellFormed items

def MembersWellFormed : List (List UInt16 × Json) → Prop
  | [] => True
  | (_, value) :: members => WellFormed value ∧ MembersWellFormed members

end

theorem wellFormed_ofNat (n : Nat) : WellFormed (.ofNat n) := by
  rw [ofNat, WellFormed]
  exact Literal.wellFormed_ofNat n

/-- An object can be read if its values can. -/
theorem wellFormed_ofMembers {members : List (String × Json)}
    (h : ∀ member ∈ members, WellFormed member.2) : WellFormed (.ofMembers members) := by
  rw [ofMembers, WellFormed]
  induction members with
  | nil => rw [List.map_nil, MembersWellFormed]; trivial
  | cons member members ih =>
    rw [List.forall_mem_cons] at h
    rw [List.map_cons, MembersWellFormed]
    exact ⟨h.1, ih h.2⟩

theorem Blank.nil : Blank [] :=
  nofun

/-- A name and its value are written without blanks. -/
theorem spells_member {j : Json} {cs : List Char} (key : List UInt16) (h : Spells (.value j) cs) :
    Spells (.member (key, j)) (textText key ++ ':' :: cs) := by
  have hspells := Spells.member .nil .nil (.flatMap key) h
  rwa [show textText key ++ ':' :: cs = [] ++ '"' :: (key.flatMap unitText ++ '"' :: ([] ++ ':' ::
    cs)) by simp [textText]]

mutual

/-- The compact form is a text of the value. -/
theorem spells_chars (j : Json) (hj : WellFormed j) : Spells (.value j) (chars j) := by
  cases j with
  | null =>
    rw [chars]
    exact .null
  | bool b =>
    cases b with
    | true =>
      rw [chars]
      exact .true
    | false =>
      rw [chars]
      exact .false
  | number l =>
    rw [WellFormed] at hj
    rw [chars, Literal.text_eq]
    exact .number ⟨hj, 'e', Or.inl rfl, rfl⟩
  | text us =>
    rw [chars]
    exact .text (.flatMap us)
  | array items =>
    rw [WellFormed] at hj
    rw [chars]
    cases items with
    | nil =>
      rw [itemChars]
      exact .emptyArray .nil
    | cons item items => exact .array (spells_itemChars (item :: items) hj (List.cons_ne_nil _ _))
  | object members =>
    rw [WellFormed] at hj
    rw [chars]
    cases members with
    | nil =>
      rw [memberChars]
      exact .emptyObject .nil
    | cons member members =>
      exact .object (spells_memberChars (member :: members) hj (List.cons_ne_nil _ _))

theorem spells_itemChars (items : List Json) (h : ItemsWellFormed items) (hne : items ≠ []) :
    Spells (.items items) (itemChars items) := by
  cases items with
  | nil => exact absurd rfl hne
  | cons item items =>
    rw [ItemsWellFormed] at h
    have hitem := spells_chars item h.1
    cases items with
    | nil =>
      rw [itemChars]
      exact .item hitem
    | cons item' items =>
      rw [itemChars]
      · exact .items hitem (spells_itemChars (item' :: items) h.2 (List.cons_ne_nil _ _))
      · exact nofun

theorem spells_memberChars (members : List (List UInt16 × Json)) (h : MembersWellFormed members)
    (hne : members ≠ []) : Spells (.members members) (memberChars members) := by
  cases members with
  | nil => exact absurd rfl hne
  | cons member members =>
    obtain ⟨name, value⟩ := member
    rw [MembersWellFormed] at h
    have hmember := spells_member name (spells_chars value h.1)
    cases members with
    | nil =>
      rw [memberChars]
      exact .last hmember
    | cons member' members =>
      rw [memberChars]
      · exact .members hmember
          (spells_memberChars (member' :: members) h.2 (List.cons_ne_nil _ _))
      · exact nofun

end

theorem spells_compact {j : Json} (h : WellFormed j) : Spells (.value j) j.compact.toList := by
  rw [compact, String.toList_ofList]
  exact spells_chars j h

/-- A document in the compact form is read again. -/
theorem read?_compact {j : Json} (h : WellFormed j) : read? j.compact = some j :=
  read?_spells (spells_compact h)

end FanBoard.Json
