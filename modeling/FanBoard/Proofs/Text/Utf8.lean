import FanBoard.Text.Utf8
import Mathlib.Tactic.SplitIfs

/-!
# Bytes read as text

`decodeLossy` gives text for any bytes.  What spells a character is read as that character, and what
spells none leaves replacement characters.

* `decodeLossy_encode`: the bytes of a text are read as the text.
* `Reader.first_cases`: what the first byte of a character gives.
* `Reader.Sound` is what the reader knows inside a character: whatever comes, the character is past
  ASCII.  By `take_sound` every byte keeps it.
* `mem_decodeLossy`: a character of ASCII comes from its own byte only.
* `length_encode_decodeLossy`: the text has at most three bytes for each byte that was read.
* `decodeLossy_ne_empty`: no bytes are read as nothing.
-/

namespace FanBoard

theorem toNat_charOfNat {n : Nat} (h : n < 0xD800 ∨ 0xDFFF < n ∧ n < 0x110000) :
    (Char.ofNat n).toNat = n := by
  have hvalid : n.isValidChar := h
  rw [Char.ofNat, dif_pos hvalid]
  rfl

namespace Utf8

/-! ## The bytes of a text -/

theorem toList_loop_eq (bytes : ByteArray) (i : Nat) (front : List UInt8) :
    ByteArray.toList.loop bytes i front = front.reverse ++ bytes.data.toList.drop i := by
  induction i, front using ByteArray.toList.loop.induct bytes with
  | case1 i front hi ih =>
    have hget : bytes.get! i = bytes.data.toList[i] := getElem!_pos bytes.data i hi
    rw [ByteArray.toList.loop, if_pos hi, ih, List.drop_eq_getElem_cons hi, hget]
    simp
  | case2 i front hi =>
    rw [ByteArray.toList.loop, if_neg hi, List.drop_eq_nil_of_le (Nat.le_of_not_lt hi)]
    simp

theorem encode_eq_data (s : String) : encode s = s.toByteArray.data.toList := by
  rw [encode, String.toUTF8_eq_toByteArray, ByteArray.toList, toList_loop_eq]
  simp

theorem encode_injective {s t : String} (h : encode s = encode t) : s = t := by
  rw [encode_eq_data, encode_eq_data] at h
  exact String.toByteArray_inj.mp (ByteArray.ext (Array.toList_inj.mp h))

theorem encode_eq_flatMap (s : String) : encode s = s.toList.flatMap String.utf8EncodeChar := by
  rw [encode_eq_data, ← String.utf8Encode_toList, List.utf8Encode, List.toList_data_toByteArray]

/-- The bytes of a character are those of ASCII, or all of them are past ASCII. -/
theorem mem_utf8EncodeChar {c : Char} {b : UInt8} (h : b ∈ String.utf8EncodeChar c) :
    b.toNat < 0x80 ∧ b.toNat = c.toNat ∨ 0x80 ≤ b.toNat ∧ b.toNat ≤ 0xF7 := by
  have hbyte {n : Nat} (hn : n < 256) : (UInt8.ofNat n).toNat = n := by
    rw [UInt8.toNat_ofNat', Nat.mod_eq_of_lt hn]
  have hval : c.val.toNat = c.toNat := rfl
  simp only [String.utf8EncodeChar, hval] at h
  split_ifs at h <;> simp only [List.mem_cons, List.not_mem_nil, or_false] at h
  · rw [h, hbyte (by omega)]
    omega
  · rcases h with rfl | rfl <;> rw [hbyte (by omega)] <;> omega
  · rcases h with rfl | rfl | rfl <;> rw [hbyte (by omega)] <;> omega
  · rcases h with rfl | rfl | rfl | rfl <;> rw [hbyte (by omega)] <;> omega

/-! ## Reading what was written -/

namespace Reader

/-- Inside a character with `left` bytes still to come, the next one may be this byte. -/
def Admits (r : Reader) (bits left : Nat) (b : UInt8) : Prop :=
  ∃ least greatest, r = .inside bits left least greatest ∧ least ≤ b ∧ b ≤ greatest

/-- A byte that only follows others. -/
def IsTail (b : UInt8) : Prop :=
  0x80 ≤ b.toNat ∧ b.toNat ≤ 0xBF

section Bytes

variable {r : Reader} {bits left : Nat} {b₁ b₂ b₃ b₄ : UInt8}

theorem admits_tail (h : IsTail b₁) : (inside bits left 0x80 0xBF).Admits bits left b₁ :=
  ⟨0x80, 0xBF, rfl, UInt8.le_iff_toNat_le.mpr h.1, UInt8.le_iff_toNat_le.mpr h.2⟩

theorem run_cons (r : Reader) (b : UInt8) (bytes : List UInt8) :
    r.run (b :: bytes) = (r.take b).1 ++ (r.take b).2.run bytes := by
  cases r <;> rfl

theorem Admits.take (h : r.Admits bits left b₁) :
    r.take b₁ =
      if left ≤ 1 then ([Char.ofNat (bits * 64 + b₁.toNat % 64)], .between)
      else ([], .inside (bits * 64 + b₁.toNat % 64) (left - 1) 0x80 0xBF) := by
  obtain ⟨least, greatest, rfl, hrange⟩ := h
  exact if_pos hrange

/-- The last byte ends the character. -/
theorem Admits.run_last (h : r.Admits bits 1 b₁) (rest : List UInt8) :
    r.run (b₁ :: rest) = Char.ofNat (bits * 64 + b₁.toNat % 64) :: run .between rest := by
  rw [run_cons, h.take]
  rfl

/-- Every other byte adds its bits. -/
theorem Admits.run_more (h : r.Admits bits (left + 2) b₁) (rest : List UInt8) :
    r.run (b₁ :: rest) =
      run (.inside (bits * 64 + b₁.toNat % 64) (left + 1) 0x80 0xBF) rest := by
  rw [run_cons, h.take, if_neg (by omega)]
  rfl

theorem run_lead (h : first b₁ = ([], r)) (rest : List UInt8) :
    run .between (b₁ :: rest) = r.run rest := by
  rw [run_cons, Reader.take, h]
  rfl

theorem first_of_ascii (h : b₁.toNat < 0x80) : first b₁ = ([Char.ofNat b₁.toNat], .between) :=
  if_pos h

theorem run_one (h : b₁.toNat < 0x80) (rest : List UInt8) :
    run .between (b₁ :: rest) = Char.ofNat b₁.toNat :: run .between rest := by
  rw [run_cons, Reader.take, first_of_ascii h]
  rfl

/-- A character of two bytes. -/
theorem run_two (h₁ : 0xC2 ≤ b₁.toNat ∧ b₁.toNat ≤ 0xDF) (h₂ : IsTail b₂) (rest : List UInt8) :
    run .between (b₁ :: b₂ :: rest) =
      Char.ofNat ((b₁.toNat - 0xC0) * 64 + b₂.toNat % 64) :: run .between rest := by
  have hlead : first b₁ = ([], .inside (b₁.toNat - 0xC0) 1 0x80 0xBF) := by
    simp only [first]
    rw [if_neg (by omega), if_pos h₁]
  rw [run_lead hlead, (admits_tail h₂).run_last]

/-- A character of three bytes.  After some first bytes the second one has a smaller range. -/
theorem run_three (h₁ : 0xE0 ≤ b₁.toNat ∧ b₁.toNat ≤ 0xEF) (h₂ : IsTail b₂) (h₃ : IsTail b₃)
    (hleast : b₁.toNat = 0xE0 → 0xA0 ≤ b₂.toNat) (hgreatest : b₁.toNat = 0xED → b₂.toNat ≤ 0x9F)
    (rest : List UInt8) :
    run .between (b₁ :: b₂ :: b₃ :: rest) =
      Char.ofNat (((b₁.toNat - 0xE0) * 64 + b₂.toNat % 64) * 64 + b₃.toNat % 64) ::
        run .between rest := by
  have hlead : ∃ r, first b₁ = ([], r) ∧ r.Admits (b₁.toNat - 0xE0) 2 b₂ := by
    simp only [first, Admits, UInt8.le_iff_toNat_le]
    rw [if_neg (by omega), if_neg (by omega)]
    by_cases h : b₁.toNat = 0xE0
    · rw [if_pos h, h]
      exact ⟨_, rfl, 0xA0, 0xBF, rfl, hleast h, h₂.2⟩
    by_cases h' : b₁.toNat = 0xED
    · rw [if_neg h, if_pos h', h']
      exact ⟨_, rfl, 0x80, 0x9F, rfl, h₂.1, hgreatest h'⟩
    · rw [if_neg h, if_neg h', if_pos (by omega)]
      exact ⟨_, rfl, 0x80, 0xBF, rfl, h₂⟩
  obtain ⟨r, hr, hadmits⟩ := hlead
  rw [run_lead hr, hadmits.run_more, (admits_tail h₃).run_last]

/-- A character of four bytes. -/
theorem run_four (h₁ : 0xF0 ≤ b₁.toNat ∧ b₁.toNat ≤ 0xF4) (h₂ : IsTail b₂) (h₃ : IsTail b₃)
    (h₄ : IsTail b₄) (hleast : b₁.toNat = 0xF0 → 0x90 ≤ b₂.toNat)
    (hgreatest : b₁.toNat = 0xF4 → b₂.toNat ≤ 0x8F) (rest : List UInt8) :
    run .between (b₁ :: b₂ :: b₃ :: b₄ :: rest) =
      Char.ofNat ((((b₁.toNat - 0xF0) * 64 + b₂.toNat % 64) * 64 + b₃.toNat % 64) * 64 +
        b₄.toNat % 64) :: run .between rest := by
  have hlead : ∃ r, first b₁ = ([], r) ∧ r.Admits (b₁.toNat - 0xF0) 3 b₂ := by
    simp only [first, Admits, UInt8.le_iff_toNat_le]
    rw [if_neg (by omega), if_neg (by omega), if_neg (by omega), if_neg (by omega),
      if_neg (by omega)]
    by_cases h : b₁.toNat = 0xF0
    · rw [if_pos h, h]
      exact ⟨_, rfl, 0x90, 0xBF, rfl, hleast h, h₂.2⟩
    by_cases h' : b₁.toNat = 0xF4
    · rw [if_neg h, if_neg (by omega), if_pos h', h']
      exact ⟨_, rfl, 0x80, 0x8F, rfl, h₂.1, hgreatest h'⟩
    · rw [if_neg h, if_pos (by omega)]
      exact ⟨_, rfl, 0x80, 0xBF, rfl, h₂⟩
  obtain ⟨r, hr, hadmits⟩ := hlead
  rw [run_lead hr, hadmits.run_more, (admits_tail h₃).run_more, (admits_tail h₄).run_last]

end Bytes

/-- The bytes of a character are read as the character. -/
theorem run_utf8EncodeChar (c : Char) (rest : List UInt8) :
    run .between (String.utf8EncodeChar c ++ rest) = c :: run .between rest := by
  have hvalid : c.toNat < 0xD800 ∨ 0xDFFF < c.toNat ∧ c.toNat < 0x110000 := c.valid
  have hbyte {n : Nat} (hn : n < 256) : (UInt8.ofNat n).toNat = n := by
    rw [UInt8.toNat_ofNat', Nat.mod_eq_of_lt hn]
  have hval : c.val.toNat = c.toNat := rfl
  simp only [String.utf8EncodeChar, hval]
  split_ifs with h₁ h₂ h₃
  · have hb := hbyte (show c.toNat < 256 by omega)
    rw [List.singleton_append, run_one (by omega), hb, Char.ofNat_toNat]
  · have hb₁ := hbyte (show c.toNat / 64 % 32 + 192 < 256 by omega)
    have hb₂ := hbyte (show c.toNat % 64 + 128 < 256 by omega)
    have hchar : (c.toNat / 64 % 32 + 192 - 0xC0) * 64 + (c.toNat % 64 + 128) % 64 = c.toNat := by
      omega
    rw [List.cons_append, List.singleton_append, run_two (by omega) (by rw [IsTail]; omega), hb₁,
      hb₂, hchar, Char.ofNat_toNat]
  · have hb₁ := hbyte (show c.toNat / 4096 % 16 + 224 < 256 by omega)
    have hb₂ := hbyte (show c.toNat / 64 % 64 + 128 < 256 by omega)
    have hb₃ := hbyte (show c.toNat % 64 + 128 < 256 by omega)
    have hchar : ((c.toNat / 4096 % 16 + 224 - 0xE0) * 64 + (c.toNat / 64 % 64 + 128) % 64) * 64 +
        (c.toNat % 64 + 128) % 64 = c.toNat := by omega
    rw [List.cons_append, List.cons_append, List.singleton_append,
      run_three (by omega) (by rw [IsTail]; omega) (by rw [IsTail]; omega) (by omega) (by omega),
      hb₁, hb₂, hb₃, hchar, Char.ofNat_toNat]
  · have hb₁ := hbyte (show c.toNat / 262144 % 8 + 240 < 256 by omega)
    have hb₂ := hbyte (show c.toNat / 4096 % 64 + 128 < 256 by omega)
    have hb₃ := hbyte (show c.toNat / 64 % 64 + 128 < 256 by omega)
    have hb₄ := hbyte (show c.toNat % 64 + 128 < 256 by omega)
    have hchar : (((c.toNat / 262144 % 8 + 240 - 0xF0) * 64 +
        (c.toNat / 4096 % 64 + 128) % 64) * 64 + (c.toNat / 64 % 64 + 128) % 64) * 64 +
        (c.toNat % 64 + 128) % 64 = c.toNat := by omega
    rw [List.cons_append, List.cons_append, List.cons_append, List.singleton_append,
      run_four (by omega) (by rw [IsTail]; omega) (by rw [IsTail]; omega) (by rw [IsTail]; omega)
        (by omega) (by omega), hb₁, hb₂, hb₃, hb₄, hchar, Char.ofNat_toNat]

end Reader

/-- The bytes of a text are read as the text. -/
theorem decodeLossy_encode (s : String) : decodeLossy (encode s) = s := by
  have hrun : ∀ cs : List Char, Reader.run .between (cs.flatMap String.utf8EncodeChar) = cs := by
    intro cs
    induction cs with
    | nil => rfl
    | cons c cs ih => rw [List.flatMap_cons, Reader.run_utf8EncodeChar, ih]
  rw [decodeLossy, encode_eq_flatMap, hrun, String.ofList_toList]

/-! ## Reading any bytes -/

namespace Reader

/-- The number of values that `n` bytes behind others can have. -/
def span : Nat → Nat
  | 0 => 1
  | n + 1 => 64 * span n

/-- Inside a character all values that it can still have are those of characters past ASCII. -/
def Sound : Reader → Prop
  | .between => True
  | .inside bits left least greatest =>
    (1 ≤ left ∧ left ≤ 3) ∧ (0x80 ≤ least.toNat ∧ greatest.toNat ≤ 0xBF) ∧
      0x80 ≤ (bits * 64 + least.toNat - 0x80) * span (left - 1) ∧
      ((bits * 64 + greatest.toNat - 0x7F) * span (left - 1) ≤ 0xD800 ∨
        0xE000 ≤ (bits * 64 + least.toNat - 0x80) * span (left - 1) ∧
          (bits * 64 + greatest.toNat - 0x7F) * span (left - 1) ≤ 0x110000)

/-- A character of ASCII is the one of the byte. -/
def Explains (b : UInt8) (c : Char) : Prop :=
  c.toNat = b.toNat ∨ 0x80 ≤ c.toNat

theorem explains_replacement (b : UInt8) : Explains b replacement :=
  Or.inr (by decide)

/-- What the first byte of a character past ASCII gives: more bytes are to come, or it starts no
character. -/
def Opens (out : List Char × Reader) : Prop :=
  (∃ bits left least greatest, out = ([], .inside bits left least greatest) ∧
    Sound (.inside bits left least greatest)) ∨ out = ([replacement], .between)

theorem first_cases (b : UInt8) :
    b.toNat < 0x80 ∧ first b = ([Char.ofNat b.toNat], .between) ∨ Opens (first b) := by
  have hbounds : (0x80 : UInt8).toNat = 128 ∧ (0xBF : UInt8).toNat = 191 ∧
      (0xA0 : UInt8).toNat = 160 ∧ (0x9F : UInt8).toNat = 159 ∧ (0x90 : UInt8).toNat = 144 ∧
      (0x8F : UInt8).toNat = 143 := by
    decide
  by_cases hone : b.toNat < 0x80
  · exact Or.inl ⟨hone, first_of_ascii hone⟩
  refine Or.inr ?_
  have hb := b.toNat_lt
  simp only [first]
  rw [if_neg hone]
  repeat
    refine iteInduction (motive := Opens) (fun h => Or.inl ⟨_, _, _, _, rfl, ?_⟩) fun h => ?_
    rotate_left
  · exact Or.inr rfl
  all_goals
    simp only [Sound, Nat.sub_self, span, hbounds]
    omega

theorem first_sound (b : UInt8) : (first b).2.Sound ∧ ∀ c ∈ (first b).1, Explains b c := by
  obtain ⟨hone, h⟩ | ⟨bits, left, least, greatest, h, hsound⟩ | h := first_cases b
  · rw [h]
    refine ⟨trivial, fun c hc => ?_⟩
    rw [List.mem_singleton.mp hc, Explains, toNat_charOfNat (by omega)]
    exact Or.inl rfl
  · rw [h]
    exact ⟨hsound, nofun⟩
  · rw [h]
    refine ⟨trivial, fun c hc => ?_⟩
    rw [List.mem_singleton.mp hc]
    exact explains_replacement b

theorem take_sound {r : Reader} (h : r.Sound) (b : UInt8) :
    (r.take b).2.Sound ∧ ∀ c ∈ (r.take b).1, Explains b c := by
  cases r with
  | between => exact first_sound b
  | inside bits left least greatest =>
    obtain ⟨⟨hleft, hleft'⟩, htail, hlow, hhigh⟩ := h
    simp only [take, UInt8.le_iff_toNat_le]
    split_ifs with hrange hlast
    · obtain rfl : left = 1 := by omega
      simp only [span, Nat.sub_self, Nat.mul_one] at hlow hhigh
      refine ⟨trivial, fun c hc => ?_⟩
      rw [List.mem_singleton.mp hc, Explains, toNat_charOfNat (by omega)]
      omega
    · have hcases : left = 2 ∨ left = 3 := by omega
      refine ⟨?_, nofun⟩
      have hbounds : (0x80 : UInt8).toNat = 128 ∧ (0xBF : UInt8).toNat = 191 := by decide
      rcases hcases with rfl | rfl
      · simp only [span] at hlow hhigh
        show Sound (.inside _ 1 0x80 0xBF)
        simp only [Sound, Nat.sub_self, span, hbounds]
        omega
      · simp only [span] at hlow hhigh
        show Sound (.inside _ 2 0x80 0xBF)
        simp only [Sound, span, hbounds]
        omega
    · have hfirst := first_sound b
      refine ⟨hfirst.1, fun c hc => ?_⟩
      rcases List.mem_cons.mp hc with rfl | hc
      · exact explains_replacement b
      · exact hfirst.2 c hc

theorem run_explains {r : Reader} (h : r.Sound) (bytes : List UInt8) :
    ∀ c ∈ r.run bytes, 0x80 ≤ c.toNat ∨ ∃ b ∈ bytes, c.toNat = b.toNat := by
  induction bytes generalizing r with
  | nil =>
    cases r with
    | between => exact nofun
    | inside bits left least greatest =>
      intro c hc
      rw [List.mem_singleton.mp hc]
      exact Or.inl (by decide)
  | cons b bytes ih =>
    obtain ⟨hsound, htaken⟩ := take_sound h b
    intro c hc
    rw [run_cons, List.mem_append] at hc
    rcases hc with hc | hc
    · rcases htaken c hc with heq | hpast
      · exact Or.inr ⟨b, List.mem_cons_self, heq⟩
      · exact Or.inl hpast
    · rcases ih hsound c hc with hpast | ⟨b', hb', heq⟩
      · exact Or.inl hpast
      · exact Or.inr ⟨b', List.mem_cons_of_mem b hb', heq⟩

/-- Inside a character a replacement is due at least. -/
theorem run_inside_ne_nil (bits left : Nat) (least greatest : UInt8) (bytes : List UInt8) :
    run (.inside bits left least greatest) bytes ≠ [] := by
  induction bytes generalizing bits left least greatest with
  | nil => exact List.cons_ne_nil _ _
  | cons b bytes ih =>
    rw [run_cons]
    simp only [take]
    split_ifs with hrange hlast
    · exact List.cons_ne_nil _ _
    · exact ih _ _ _ _
    · exact List.cons_ne_nil _ _

theorem run_cons_ne_nil (b : UInt8) (bytes : List UInt8) : run .between (b :: bytes) ≠ [] := by
  rw [run_cons, take]
  obtain ⟨-, h⟩ | ⟨bits, left, least, greatest, h, -⟩ | h := first_cases b
  · rw [h]
    exact List.cons_ne_nil _ _
  · rw [h]
    exact run_inside_ne_nil _ _ _ _ _
  · rw [h]
    exact List.cons_ne_nil _ _

/-! ## How much is read -/

/-- The characters that the reader owes at least. -/
def owed : Reader → Nat
  | .between => 0
  | .inside .. => 1

section Length

variable {γ : Type} {f : Char → List γ} {k : Nat}
  (hshort : ∀ c, c.toNat < 0x80 ∨ c = replacement → (f c).length ≤ k)
  (hlong : ∀ c, (f c).length ≤ 2 * k)

include hshort

theorem length_first_le (b : UInt8) :
    ((first b).1.flatMap f).length + k * (first b).2.owed ≤ k := by
  have hreplacement := hshort replacement (Or.inr rfl)
  obtain ⟨hone, h⟩ | ⟨bits, left, least, greatest, h, -⟩ | h := first_cases b
  · have hchar : (Char.ofNat b.toNat).toNat < 0x80 := by rwa [toNat_charOfNat (by omega)]
    simpa [h, owed] using hshort _ (Or.inl hchar)
  · simp [h, owed]
  · simpa [h, owed] using hreplacement

include hlong

theorem length_take_le (r : Reader) (b : UInt8) :
    ((r.take b).1.flatMap f).length + k * (r.take b).2.owed ≤ k * (r.owed + 1) := by
  have hfirst := length_first_le hshort b
  cases r with
  | between => simpa [take, owed] using hfirst
  | inside bits left least greatest =>
    have howed : k * ((inside bits left least greatest).owed + 1) = k + k := Nat.mul_two k
    rw [howed]
    simp only [take]
    split_ifs with hrange hlast
    · have hchar := hlong (Char.ofNat (bits * 64 + b.toNat % 64))
      simp only [List.flatMap_cons, List.flatMap_nil, List.append_nil, owed]
      omega
    · simp [owed]
    · have hreplacement := hshort replacement (Or.inr rfl)
      simp only [List.flatMap_cons, List.length_append]
      omega

/-- A byte of input gives no more than a replacement does. -/
theorem length_run_le (r : Reader) (bytes : List UInt8) :
    ((r.run bytes).flatMap f).length ≤ k * (r.owed + bytes.length) := by
  induction bytes generalizing r with
  | nil =>
    cases r with
    | between => exact Nat.zero_le _
    | inside bits left least greatest =>
      simpa [run, owed] using hshort replacement (Or.inr rfl)
  | cons b bytes ih =>
    have htake := length_take_le hshort hlong r b
    have hrest := ih (r.take b).2
    simp only [run_cons, List.flatMap_append, List.length_append, List.length_cons]
    simp only [Nat.mul_add] at htake hrest ⊢
    omega

end Length

end Reader

/-- A character of ASCII comes from its own byte only. -/
theorem mem_decodeLossy {bytes : List UInt8} {c : Char} (h : c ∈ (decodeLossy bytes).toList) :
    0x80 ≤ c.toNat ∨ ∃ b ∈ bytes, c.toNat = b.toNat := by
  rw [decodeLossy, String.toList_ofList] at h
  exact Reader.run_explains (r := .between) trivial bytes c h

theorem decodeLossy_ne_empty {bytes : List UInt8} (h : bytes ≠ []) : decodeLossy bytes ≠ "" := by
  obtain ⟨b, rest, rfl⟩ := List.exists_cons_of_ne_nil h
  intro hempty
  have hlist := congrArg String.toList hempty
  rw [decodeLossy, String.toList_ofList] at hlist
  exact Reader.run_cons_ne_nil b rest hlist

/-- Bytes spell at most as many characters. -/
theorem length_decodeLossy (bytes : List UInt8) :
    (decodeLossy bytes).toList.length ≤ bytes.length := by
  have hrun := Reader.length_run_le (f := fun c => [c]) (k := 1) (fun _ _ => Nat.le_refl 1)
    (fun _ => Nat.le_succ 1) .between bytes
  rw [decodeLossy, String.toList_ofList]
  simpa [Reader.owed] using hrun

/-- The text has at most three bytes for each byte that was read. -/
theorem length_encode_decodeLossy (bytes : List UInt8) :
    (encode (decodeLossy bytes)).length ≤ 3 * bytes.length := by
  have hshort : ∀ c : Char, c.toNat < 0x80 ∨ c = replacement →
      (String.utf8EncodeChar c).length ≤ 3 := by
    rintro c (hone | rfl)
    · have hsize : c.utf8Size = 1 := by
        rw [Char.utf8Size_eq_one_iff, UInt32.le_iff_toNat_le]
        exact Nat.le_of_lt_succ hone
      rw [String.length_utf8EncodeChar, hsize]
      decide
    · decide
  have hlong : ∀ c : Char, (String.utf8EncodeChar c).length ≤ 2 * 3 := by
    intro c
    have hsize := c.utf8Size_le_four
    rw [String.length_utf8EncodeChar]
    omega
  have hrun := Reader.length_run_le hshort hlong .between bytes
  rw [decodeLossy, encode_eq_flatMap, String.toList_ofList]
  simpa [Reader.owed] using hrun

end Utf8

end FanBoard
