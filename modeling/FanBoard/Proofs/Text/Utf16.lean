import FanBoard.Text.Utf16

/-!
# Texts and their code units

* `Utf16.decode?_units`: a character is put together from its units.
* `Utf16.decode?_encode`: a text is read from its code units.
-/

namespace FanBoard

namespace Utf16

/-- A character is not a surrogate. -/
theorem toNat_range (c : Char) : c.toNat < 0xD800 ∨ 0xDFFF < c.toNat ∧ c.toNat < 0x110000 :=
  c.valid

theorem surrogate_iff {u : UInt16} :
    (isLeading u = true ↔ 0xD800 ≤ u.toNat ∧ u.toNat ≤ 0xDBFF) ∧
      (isTrailing u = true ↔ 0xDC00 ≤ u.toNat ∧ u.toNat ≤ 0xDFFF) := by
  simp only [isLeading, isTrailing, Bool.and_eq_true, decide_eq_true_eq, UInt16.le_iff_toNat_le]
  exact ⟨Iff.rfl, Iff.rfl⟩

/-- A character is put together from its units. -/
theorem decode?_units (c : Char) (rest : List UInt16) :
    decode? (units c ++ rest) = (decode? rest).map (c :: ·) := by
  have hrange := toNat_range c
  rw [units]
  split
  · rename_i hplain
    have hunit : (UInt16.ofNat c.toNat).toNat = c.toNat := by
      rw [UInt16.toNat_ofNat']
      omega
    have hleading : isLeading (UInt16.ofNat c.toNat) = false := by
      rw [Bool.eq_false_iff, ne_eq, surrogate_iff.1, hunit]
      omega
    have htrailing : isTrailing (UInt16.ofNat c.toNat) = false := by
      rw [Bool.eq_false_iff, ne_eq, surrogate_iff.2, hunit]
      omega
    cases rest with
    | nil => simp [decode?, hleading, htrailing, hunit]
    | cons v rest => simp [decode?, hleading, htrailing, hunit]
  · rename_i hpair
    have hhigh : (UInt16.ofNat (0xD800 + (c.toNat - 0x10000) / 0x400)).toNat =
        0xD800 + (c.toNat - 0x10000) / 0x400 := by
      rw [UInt16.toNat_ofNat']
      omega
    have hlow : (UInt16.ofNat (0xDC00 + (c.toNat - 0x10000) % 0x400)).toNat =
        0xDC00 + (c.toNat - 0x10000) % 0x400 := by
      rw [UInt16.toNat_ofNat']
      omega
    have hleading : isLeading (UInt16.ofNat (0xD800 + (c.toNat - 0x10000) / 0x400)) = true := by
      rw [surrogate_iff.1, hhigh]
      omega
    have htrailing : isTrailing (UInt16.ofNat (0xDC00 + (c.toNat - 0x10000) % 0x400)) = true := by
      rw [surrogate_iff.2, hlow]
      omega
    have hchar : 0x10000 + (0xD800 + (c.toNat - 0x10000) / 0x400 - 0xD800) * 0x400 +
        (0xDC00 + (c.toNat - 0x10000) % 0x400 - 0xDC00) = c.toNat := by omega
    simp only [List.cons_append, List.nil_append, decode?, hleading, htrailing, if_true, pair,
      hhigh, hlow, hchar, Char.ofNat_toNat]

/-- A text is read from its code units. -/
theorem decode?_encode (s : String) : decode? (encode s) = some s.toList := by
  rw [encode]
  induction s.toList with
  | nil => rfl
  | cons c cs ih => rw [List.flatMap_cons, decode?_units, ih, Option.map_some]

end Utf16

end FanBoard
