import FanBoard.Json.Number

/-!
# Numbers as they are written

A number that is written is read again digit by digit.

* `Digit.scan_map` and `Digit.toNat_ofNat`: the digits of a number.
* `Literal.WellFormed` says which literals can be read at all: there are digits where digits have to
  be, and a leading zero stands alone.
* `Literal.SpelledBy` is a literal with one of its spellings: the exponent has one of two marks.
* `Literal.scan_spelled`: a literal is read from its spelling, whatever ends it.
* `Literal.real?_eq`: digits that fit into 64 bits are taken as one number.
* `Literal.natural?_digits`: digits that fit are read as the natural number that they spell.
-/

namespace FanBoard.Json

/-! ## Digits -/

namespace Digit

theorem ofChar?_toChar : ∀ d : Digit, ofChar? d.toChar = some d := by
  decide

theorem toChar_ne_zero : ∀ d : Digit, d ≠ 0 → d.toChar ≠ '0' := by
  decide

/-- No digit is a sign, a point or an exponent mark. -/
theorem toChar_ne_mark : ∀ d : Digit, d.toChar ≠ '+' ∧ d.toChar ≠ '-' ∧ d.toChar ≠ '.' ∧
    d.toChar ≠ 'e' ∧ d.toChar ≠ 'E' := by
  decide

/-- The text does not go on with a digit. -/
def Stops (cs : List Char) : Prop :=
  ∀ c ∈ cs.head?, ofChar? c = none

/-- Digits are read up to the end of them. -/
theorem scan_map (ds : List Digit) {rest : List Char} (h : Stops rest) :
    scan (ds.map toChar ++ rest) = (ds, rest) := by
  induction ds with
  | nil =>
    cases rest with
    | nil => rfl
    | cons c cs => simp [scan, h c rfl]
  | cons d ds ih => simp [scan, ofChar?_toChar, ih]

/-- The number that digits spell behind the number `n`. -/
def spell (n : Nat) (ds : List Digit) : Nat :=
  ds.foldl (fun n d => 10 * n + d.val) n

theorem toNat_eq (ds : List Digit) : toNat ds = spell 0 ds := rfl

theorem spell_append (n : Nat) (ds ds' : List Digit) :
    spell n (ds ++ ds') = spell (spell n ds) ds' :=
  List.foldl_append

theorem le_spell (n : Nat) (ds : List Digit) : n ≤ spell n ds := by
  induction ds generalizing n with
  | nil => exact Nat.le_refl n
  | cons d ds ih => exact Nat.le_trans (by omega) (ih (10 * n + d.val))

theorem spell_zeros (n j : Nat) : spell n (List.replicate j 0) = n * tenTo j := by
  induction j generalizing n with
  | zero => exact (Nat.mul_one n).symm
  | succ j ih =>
    rw [List.replicate_succ]
    show spell (10 * n + 0) _ = n * (tenTo j * 10)
    rw [ih, Nat.add_zero, Nat.mul_comm 10, Nat.mul_assoc, Nat.mul_comm 10]

/-- Digits spell less than the power of ten of their number. -/
theorem spell_lt (n : Nat) (ds : List Digit) : spell n ds < (n + 1) * tenTo ds.length := by
  induction ds generalizing n with
  | nil => exact Nat.lt_of_lt_of_eq (Nat.lt_succ_self n) (Nat.mul_one _).symm
  | cons d ds ih =>
    have hd := d.isLt
    calc spell (10 * n + d.val) ds < (10 * n + d.val + 1) * tenTo ds.length := ih _
      _ ≤ ((n + 1) * 10) * tenTo ds.length := Nat.mul_le_mul_right _ (by omega)
      _ = (n + 1) * (tenTo ds.length * 10) := by rw [Nat.mul_assoc, Nat.mul_comm 10]

theorem toNat_ofNat (n : Nat) : toNat (ofNat n) = n := by
  induction n using ofNat.induct with
  | case1 n h =>
    rw [ofNat, if_pos h]
    show 10 * 0 + n % 10 = n
    omega
  | case2 n h ih =>
    rw [ofNat, if_neg h, toNat_eq, spell_append, ← toNat_eq, ih]
    show 10 * (n / 10) + n % 10 = n
    omega

theorem ofNat_ne_nil (n : Nat) : ofNat n ≠ [] := by
  rw [ofNat]
  split
  · exact nofun
  · simp

/-- The digits of a positive number do not begin with zero. -/
theorem head?_ofNat {n : Nat} (h : n ≠ 0) : (ofNat n).head? ≠ some 0 := by
  induction n using ofNat.induct with
  | case1 n hlt =>
    rw [ofNat, if_pos hlt]
    simp [Fin.ext_iff]
    omega
  | case2 n hge ih =>
    rw [ofNat, if_neg hge, List.head?_append, Option.or_of_isSome]
    · exact ih (by omega)
    · exact List.isSome_head?.mpr (ofNat_ne_nil _)

end Digit

/-! ## Reading a literal -/

namespace Literal

/-- A literal that can be read: its digits are there, and a leading zero stands alone. -/
structure WellFormed (l : Literal) : Prop where
  whole : l.whole = [0] ∨ l.whole ≠ [] ∧ l.whole.head? ≠ some 0
  fraction : ∀ ds ∈ l.fraction, ds ≠ []
  exponent : ∀ p ∈ l.exponent, p.2 ≠ []

/-- The text does not go on with what could belong to a number. -/
def Ends (cs : List Char) : Prop :=
  ∀ c ∈ cs.head?, Digit.ofChar? c = none ∧ c ≠ '.' ∧ c ≠ 'e' ∧ c ≠ 'E'

theorem Ends.stops {cs : List Char} (h : Ends cs) : Digit.Stops cs :=
  fun c hc => (h c hc).1

theorem scanWhole_text {ds : List Digit} {rest : List Char}
    (hds : ds = [0] ∨ ds ≠ [] ∧ ds.head? ≠ some 0) (h : Digit.Stops rest) :
    scanWhole (ds.map Digit.toChar ++ rest) = some (ds, rest) := by
  rcases hds with rfl | ⟨hne, hzero⟩
  · rfl
  · cases ds with
    | nil => exact absurd rfl hne
    | cons d ds =>
      have hchar := Digit.toChar_ne_zero d fun heq => hzero (by rw [heq]; rfl)
      have hscan := Digit.scan_map (d :: ds) h
      rw [List.map_cons, List.cons_append] at hscan ⊢
      rw [scanWhole]
      · rw [hscan]
      · exact fun rest' heq => hchar (List.cons.inj heq).1

/-- The point and the digits after it. -/
def fractionText : Option (List Digit) → List Char
  | some ds => '.' :: ds.map Digit.toChar
  | none => []

/-- The mark, the sign and the digits of an exponent. -/
def exponentText (mark : Char) : Option (Marker × List Digit) → List Char
  | some (m, ds) => mark :: markerText m ++ ds.map Digit.toChar
  | none => []

/-- A number as it is written with an exponent mark. -/
def spelling (mark : Char) (l : Literal) : List Char :=
  (if l.negative then ['-'] else []) ++
    (l.whole.map Digit.toChar ++ (fractionText l.fraction ++ exponentText mark l.exponent))

theorem text_eq (l : Literal) : l.text = l.spelling 'e' := by
  obtain ⟨negative, whole, fraction, exponent⟩ := l
  cases fraction <;> cases exponent <;> simp [text, spelling, fractionText, exponentText]

/-- A literal that can be read, and a text of it. -/
structure SpelledBy (l : Literal) (cs : List Char) : Prop where
  wellFormed : l.WellFormed
  spelling : ∃ mark, (mark = 'e' ∨ mark = 'E') ∧ cs = l.spelling mark

theorem scanFraction_text {fraction : Option (List Digit)} {rest : List Char}
    (hds : ∀ ds ∈ fraction, ds ≠ []) (h : Digit.Stops rest) (hpoint : rest.head? ≠ some '.') :
    scanFraction (fractionText fraction ++ rest) = some (fraction, rest) := by
  cases fraction with
  | none =>
    cases rest with
    | nil => rfl
    | cons c cs =>
      simp only [fractionText, List.nil_append]
      rw [scanFraction]
      exact fun cs' heq => hpoint (by rw [(List.cons.inj heq).1]; rfl)
  | some ds =>
    cases ds with
    | nil => exact absurd rfl (hds [] rfl)
    | cons d ds => simp only [fractionText, List.cons_append, scanFraction, Digit.scan_map _ h]

theorem scanPower_text {m : Marker} {ds : List Digit} {rest : List Char} (hds : ds ≠ [])
    (h : Digit.Stops rest) :
    scanPower m (ds.map Digit.toChar ++ rest) = some (some (m, ds), rest) := by
  rw [scanPower, Digit.scan_map _ h]
  cases ds with
  | nil => exact absurd rfl hds
  | cons d ds => rfl

section Exponent

variable {mark : Char} (hmark : mark = 'e' ∨ mark = 'E')

include hmark

theorem scanExponent_text {exponent : Option (Marker × List Digit)} {rest : List Char}
    (hds : ∀ p ∈ exponent, p.2 ≠ []) (h : Ends rest) :
    scanExponent (exponentText mark exponent ++ rest) = some (exponent, rest) := by
  cases exponent with
  | none =>
    rw [exponentText, List.nil_append]
    unfold scanExponent
    split
    case h_7 => rfl
    -- none of the other rules begins like the end of a number
    all_goals
      first
      | exact absurd rfl (h _ rfl).2.2.1
      | exact absurd rfl (h _ rfl).2.2.2
  | some p =>
    obtain ⟨m, ds⟩ := p
    have hpower := scanPower_text (m := m) (hds _ rfl) h.stops
    cases m with
    | plus => rcases hmark with rfl | rfl <;> exact hpower
    | minus => rcases hmark with rfl | rfl <;> exact hpower
    | bare =>
      cases ds with
      | nil => exact absurd rfl (hds _ rfl)
      | cons d ds =>
        have hdigit := Digit.toChar_ne_mark d
        simp only [exponentText, markerText, List.map_cons, List.cons_append,
          List.nil_append] at hpower ⊢
        have hplus (cs : List Char) : d.toChar :: (ds.map Digit.toChar ++ rest) ≠ '+' :: cs :=
          fun heq => hdigit.1 (List.cons.inj heq).1
        have hminus (cs : List Char) : d.toChar :: (ds.map Digit.toChar ++ rest) ≠ '-' :: cs :=
          fun heq => hdigit.2.1 (List.cons.inj heq).1
        rcases hmark with rfl | rfl <;> rw [scanExponent]
        all_goals
          first
          | exact hpower
          | exact hplus
          | exact hminus

/-- Neither a digit nor a point stands at the front of an exponent or at the end of a number. -/
theorem exponentText_stops (exponent : Option (Marker × List Digit)) {rest : List Char}
    (h : Ends rest) : Digit.Stops (exponentText mark exponent ++ rest) ∧
      (exponentText mark exponent ++ rest).head? ≠ some '.' := by
  cases exponent with
  | none => exact ⟨h.stops, fun heq => (h '.' heq).2.1 rfl⟩
  | some p =>
    rcases hmark with rfl | rfl <;>
      exact ⟨fun c hc => by cases hc; rfl, by simp [exponentText]⟩

end Exponent

theorem fractionText_stops (fraction : Option (List Digit)) {rest : List Char}
    (h : Digit.Stops rest) : Digit.Stops (fractionText fraction ++ rest) := by
  cases fraction with
  | none => exact h
  | some ds => exact fun c hc => by cases hc; rfl

/-- A number is read after its sign. -/
theorem scanUnsigned_spelling {mark : Char} (hmark : mark = 'e' ∨ mark = 'E') {l : Literal}
    (hl : l.WellFormed) {rest : List Char} (h : Ends rest) :
    scanUnsigned l.negative (l.whole.map Digit.toChar ++
      (fractionText l.fraction ++ (exponentText mark l.exponent ++ rest))) = some (l, rest) := by
  obtain ⟨hstops, hpoint⟩ := exponentText_stops hmark l.exponent h
  simp only [scanUnsigned, scanWhole_text hl.whole (fractionText_stops l.fraction hstops),
    scanFraction_text hl.fraction hstops hpoint, scanExponent_text hmark hl.exponent h,
    Option.bind_eq_bind, Option.bind_some, Option.pure_def]

/-- The first character of the digits before the point. -/
theorem head?_whole {l : Literal} (hl : l.WellFormed) :
    ∃ (d : Digit) (cs : List Char), l.whole.map Digit.toChar = d.toChar :: cs := by
  rcases hl.whole with heq | ⟨hne, -⟩
  · exact ⟨0, [], by rw [heq]; rfl⟩
  · obtain ⟨d, ds, heq⟩ := List.exists_cons_of_ne_nil hne
    exact ⟨d, ds.map Digit.toChar, by rw [heq]; rfl⟩

/-- A literal is read from its spelling. -/
theorem scan_spelled {l : Literal} {cs : List Char} (hl : l.SpelledBy cs) {rest : List Char}
    (h : Ends rest) : scan (cs ++ rest) = some (l, rest) := by
  obtain ⟨hformed, mark, hmark, rfl⟩ := hl
  have hunsigned := scanUnsigned_spelling hmark hformed h
  rw [spelling, List.append_assoc, List.append_assoc, List.append_assoc]
  cases hsign : l.negative with
  | true =>
    rw [hsign] at hunsigned
    exact hunsigned
  | false =>
    rw [hsign] at hunsigned
    obtain ⟨d, cs, hhead⟩ := head?_whole hformed
    rw [hhead] at hunsigned ⊢
    simp only [Bool.false_eq_true, if_false, List.nil_append, List.cons_append] at hunsigned ⊢
    rw [scan]
    · exact hunsigned
    · exact fun cs' heq => (Digit.toChar_ne_mark d).2.1 (List.cons.inj heq).1

/-! ## The value of a literal -/

/-- Digits that fit are all taken. -/
theorem absorb_eq {s : Nat} {ds : List Digit} (h : Digit.spell s ds < UInt64.size) :
    absorb s ds = (Digit.spell s ds, []) := by
  induction ds generalizing s with
  | nil => rfl
  | cons d ds ih =>
    have hle : 10 * s + d.val ≤ Digit.spell s (d :: ds) := Digit.le_spell (10 * s + d.val) ds
    rw [absorb, if_pos (Nat.lt_of_le_of_lt hle h)]
    exact ih h

/-- All digits of a literal as one number. -/
def significand (l : Literal) : Nat :=
  Digit.spell 0 (l.whole ++ l.fraction.getD [])

/-- The power of ten of its last digit. -/
def scale (l : Literal) : Int :=
  l.power - (l.fraction.getD []).length

/-- Where all digits fit, the value is one number times a power of ten. -/
theorem real?_eq {l : Literal} (h : l.significand < UInt64.size) :
    l.real? = (scaleTen (double l.significand) l.scale).map
      fun x => if l.negative then -x else x := by
  unfold significand scale at *
  rw [Digit.spell_append] at h ⊢
  have hwhole := Nat.lt_of_le_of_lt (Digit.le_spell _ _) h
  have hexponent : ((([] : List Digit).length : Int) - ((l.fraction.getD []).length -
      ([] : List Digit).length : Nat) + l.power) = l.power - (l.fraction.getD []).length := by
    simp only [List.length_nil, Nat.sub_zero]
    omega
  simp only [real?, absorb_eq hwhole, absorb_eq h, hexponent]

/-- A literal with a fraction or an exponent is a double. -/
theorem amount?_eq {l : Literal} (h : l.fraction ≠ none ∨ l.exponent ≠ none) :
    l.amount? = l.real?.map .real := by
  rw [amount?]
  split
  · rename_i hfraction hexponent _
    rcases h with h | h
    · exact absurd hfraction h
    · exact absurd hexponent h
  · rfl

/-- A number that is only digits, and fits, is read as a natural number. -/
theorem natural?_digits {ds : List Digit} {bound : Nat} (hds : Digit.toNat ds ≤ bound)
    (hbound : bound < UInt64.size) :
    (Literal.mk false ds none none).natural? bound = some (Digit.toNat ds) := by
  have habsorb : absorb 0 ds = (Digit.toNat ds, []) :=
    absorb_eq (Nat.lt_of_le_of_lt hds hbound)
  simp [natural?, amount?, habsorb, hds]

theorem wellFormed_ofNat (n : Nat) : (ofNat n).WellFormed := by
  refine ⟨?_, nofun, nofun⟩
  by_cases hzero : n = 0
  · subst hzero
    exact Or.inl (by rw [ofNat, Digit.ofNat]; rfl)
  · exact Or.inr ⟨Digit.ofNat_ne_nil n, Digit.head?_ofNat hzero⟩

end Literal

end FanBoard.Json
