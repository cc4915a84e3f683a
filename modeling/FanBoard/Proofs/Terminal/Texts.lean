import FanBoard.Proofs.Terminal.Session
import FanBoard.Proofs.Text.Utf8

/-!
# The texts of the lines

The handler of a line is given the text that the bytes of the line spell.

* `Reference.Clean` says what the lines of any stream are like, and `Clean.take` that a byte keeps it:
  a line is not empty, has at most `lineCapacity` bytes, and none of them edits lines.
* `Reference.foldl_take_kept`: bytes that the editor keeps are appended while there is room.
* `texts_wellFormed`: the texts of a session are like their bytes, and every text that fits on a line
  can be typed.
-/

namespace FanBoard

variable {ω : Type}

/-! ## What a line is made of -/

/-- A byte that ends a line. -/
def EndsLine (b : UInt8) : Prop :=
  b = 0x0D ∨ b = 0x0A

/-- A byte that the editor keeps: it is no noise, removes no byte, and ends no line. -/
def Kept (b : UInt8) : Prop :=
  ¬(b = 0x00 ∨ b = 0xFF) ∧ ¬(b = 0x08 ∨ b = 0x7F) ∧ ¬EndsLine b

namespace Reference

/-- The lines and the unfinished line are made of bytes that the editor keeps, and they fit. -/
structure Clean (r : Reference) : Prop where
  nonempty : ∀ line ∈ r.lines, line ≠ []
  short : ∀ line ∈ r.lines, line.length ≤ lineCapacity
  room : r.unfinished.length < lineCapacity
  kept : ∀ line ∈ r.lines, ∀ b ∈ line, Kept b
  unfinished_kept : ∀ b ∈ r.unfinished, Kept b

theorem clean_empty : Clean {} where
  nonempty := nofun
  short := nofun
  room := by decide
  kept := nofun
  unfinished_kept := nofun

namespace Clean

variable {r : Reference}

/-- Another line, after which an empty one begins. -/
theorem add (h : r.Clean) {line : List UInt8} (hnonempty : line ≠ [])
    (hshort : line.length ≤ lineCapacity) (hkept : ∀ b ∈ line, Kept b) :
    Clean { lines := r.lines ++ [line], unfinished := [] } where
  nonempty := List.forall_mem_append.mpr ⟨h.nonempty, List.forall_mem_singleton.mpr hnonempty⟩
  short := List.forall_mem_append.mpr ⟨h.short, List.forall_mem_singleton.mpr hshort⟩
  room := show 0 < lineCapacity by decide
  kept := List.forall_mem_append.mpr ⟨h.kept, List.forall_mem_singleton.mpr hkept⟩
  unfinished_kept := nofun

/-- A byte keeps the lines as they should be. -/
theorem take (h : r.Clean) (b : UInt8) : (r.take b).Clean := by
  have hroom := h.room
  simp only [Reference.take]
  split_ifs with hnoise hrub hend hnone hfill
  · exact h
  · have hfront : r.unfinished.dropLast.Sublist r.unfinished := List.dropLast_sublist _
    exact
      { h with
        room := Nat.lt_of_le_of_lt hfront.length_le hroom
        unfinished_kept := fun b hb => h.unfinished_kept b (hfront.subset hb) }
  · exact h
  · exact h.add hnone (Nat.le_of_lt hroom) h.unfinished_kept
  all_goals
    have hb : Kept b := ⟨hnoise, hrub, hend⟩
    have hkept : ∀ b' ∈ r.unfinished ++ [b], Kept b' :=
      List.forall_mem_append.mpr ⟨h.unfinished_kept, List.forall_mem_singleton.mpr hb⟩
    have hlength : (r.unfinished ++ [b]).length = r.unfinished.length + 1 := List.length_append
  · exact h.add (List.append_ne_nil_of_right_ne_nil _ (List.cons_ne_nil b [])) (by omega) hkept
  · have hlimit : (r.unfinished ++ [b]).length < lineCapacity := by omega
    exact { h with room := hlimit, unfinished_kept := hkept }

end Clean

theorem clean_read (bytes : List UInt8) : (read bytes).Clean :=
  List.foldlRecOn bytes take clean_empty fun _ h b _ => h.take b

/-- Bytes that the editor keeps are appended while there is room. -/
theorem foldl_take_kept (r : Reference) {bytes : List UInt8} (hkept : ∀ b ∈ bytes, Kept b)
    (hroom : r.unfinished.length + bytes.length < lineCapacity) :
    bytes.foldl take r = { r with unfinished := r.unfinished ++ bytes } := by
  induction bytes generalizing r with
  | nil => simp
  | cons b bytes ih =>
    obtain ⟨⟨hnoise, hrub, hend⟩, hbytes⟩ := List.forall_mem_cons.mp hkept
    rw [EndsLine] at hend
    rw [List.length_cons] at hroom
    have htake : r.take b = { r with unfinished := r.unfinished ++ [b] } := by
      rw [take, if_neg hnoise, if_neg hrub, if_neg hend, if_neg (by omega)]
    have hrest : (r.unfinished ++ [b]).length + bytes.length < lineCapacity := by
      rw [List.length_append, List.length_singleton]
      omega
    rw [List.foldl_cons, htake, ih _ hbytes hrest, List.append_assoc, List.singleton_append]

/-- A line that fits is read as it is typed. -/
theorem foldl_take_line {r : Reference} (hempty : r.unfinished = []) {line : List UInt8}
    (hkept : ∀ b ∈ line, Kept b) (hnonempty : line ≠ []) (hshort : line.length < lineCapacity)
    {last : UInt8} (hlast : EndsLine last) :
    (line ++ [last]).foldl take r = { lines := r.lines ++ [line], unfinished := [] } := by
  have hroom : r.unfinished.length + line.length < lineCapacity := by
    simpa [hempty] using hshort
  rw [List.foldl_append, foldl_take_kept r hkept hroom, hempty, List.nil_append]
  rcases hlast with rfl | rfl <;> simp [take, hnonempty]

end Reference

/-! ## The texts of a session -/

/-- The characters that edit lines. -/
def editing : List Char :=
  ['\x00', '\x08', '\x7f', '\r', '\n']

/-- A text without the characters that edit lines. -/
def IsPlain (text : String) : Prop :=
  ∀ c ∈ text.toList, c ∉ editing

/-- A text that fits on a line. -/
structure Fits (text : String) : Prop where
  nonempty : text ≠ ""
  short : (Utf8.encode text).length < lineCapacity
  plain : IsPlain text

/-- What a handler may rely on. -/
structure IsLineText (text : String) : Prop where
  nonempty : text ≠ ""
  short : (Utf8.encode text).length ≤ 3 * lineCapacity
  plain : IsPlain text

/-- The editor keeps a byte of ASCII unless its character edits lines. -/
theorem kept_iff {b : UInt8} {c : Char} (h : b.toNat = c.toNat) (hone : c.toNat < 0x80) :
    Kept b ↔ c ∉ editing := by
  have hchar (c' : Char) : c = c' ↔ b.toNat = c'.toNat := by rw [h, Char.toNat_inj]
  simp only [Kept, EndsLine, editing, List.mem_cons, List.not_mem_nil, or_false, hchar,
    ← UInt8.toNat_inj]
  simp
  omega

theorem isPlain_decodeLossy {bytes : List UInt8} (h : ∀ b ∈ bytes, Kept b) :
    IsPlain (Utf8.decodeLossy bytes) := by
  intro c hc hediting
  have hone : c.toNat < 0x80 := by
    simp only [editing, List.mem_cons, List.not_mem_nil, or_false] at hediting
    rcases hediting with rfl | rfl | rfl | rfl | rfl <;> decide
  rcases Utf8.mem_decodeLossy hc with hpast | ⟨b, hb, heq⟩
  · omega
  · exact (kept_iff heq.symm hone).mp (h b hb) hediting

theorem IsPlain.kept {text : String} (h : IsPlain text) : ∀ b ∈ Utf8.encode text, Kept b := by
  intro b hb
  rw [Utf8.encode_eq_flatMap, List.mem_flatMap] at hb
  obtain ⟨c, hc, hbyte⟩ := hb
  rcases Utf8.mem_utf8EncodeChar hbyte with ⟨hone, heq⟩ | ⟨hpast, hmost⟩
  · exact (kept_iff heq (heq ▸ hone)).mpr (h c hc)
  · simp only [Kept, EndsLine, ← UInt8.toNat_inj]
    simp
    omega

namespace Session

variable {wire : Wire ω} {s : Session ω}

/-- The texts handed out. -/
def texts (s : Session ω) : List String :=
  s.terminal.dispatched.map Utf8.decodeLossy

theorem Tracked.mem_lines (h : s.Tracked) {line : List UInt8} (hline : line ∈ s.terminal.dispatched) :
    line ∈ (Reference.read s.terminal.consumed).lines := by
  have hlines : s.terminal.dispatched ++ s.editor.waiting =
      (Reference.read s.terminal.consumed).lines := h.lines
  rw [← hlines]
  exact List.mem_append_left _ hline

theorem Tracked.isLineText (h : s.Tracked) {text : String} (htext : text ∈ s.texts) :
    IsLineText text := by
  obtain ⟨line, hline, rfl⟩ := List.mem_map.mp htext
  have hclean := Reference.clean_read s.terminal.consumed
  have hmem := h.mem_lines hline
  have hshort := hclean.short line hmem
  have hdecode := Utf8.length_encode_decodeLossy line
  exact
    { nonempty := Utf8.decodeLossy_ne_empty (hclean.nonempty line hmem)
      short := by omega
      plain := isPlain_decodeLossy (hclean.kept line hmem) }

theorem run_feed_consumed (s : Session ω) (bytes : List UInt8) :
    (s.run wire (bytes.map .feed)).terminal.consumed = s.terminal.consumed ++ bytes := by
  induction bytes generalizing s with
  | nil => simp [run]
  | cons b bytes ih =>
    have hstep : (s.step wire (.feed b)).terminal.consumed = s.terminal.consumed ++ [b] := by
      simp [step, Wire.feed, Wire.watched_performAll, Watched.take]
    have hrun : s.run wire ((b :: bytes).map .feed) =
        (s.step wire (.feed b)).run wire (bytes.map .feed) := rfl
    rw [hrun, ih, hstep, List.append_assoc, List.singleton_append]

/-- A text that fits, typed on an empty line and ended, is handed out, whatever took the bytes. -/
theorem Tracked.texts_of_consumed {s' : Session ω} (h : s.Tracked) (h' : s'.Tracked)
    (hempty : s.editor.pending = #[]) {text : String} (hfits : Fits text) {last : UInt8}
    (hlast : EndsLine last)
    (hconsumed : s'.terminal.consumed = s.terminal.consumed ++ (Utf8.encode text ++ [last])) :
    s'.texts = s.texts ++ [text] := by
  have hbefore : s.editor.Tracks s.terminal.dispatched (Reference.read s.terminal.consumed) := h
  have hafter : s'.editor.Tracks s'.terminal.dispatched (Reference.read s'.terminal.consumed) := h'
  have hcollecting : s.editor.full = false := by
    refine Bool.eq_false_iff.mpr fun hfull => ?_
    have hsize := hbefore.full_iff.mp hfull
    rw [hempty] at hsize
    cases hsize
  have hunfinished : (Reference.read s.terminal.consumed).unfinished = [] := by
    rw [← hbefore.unfinished_of_collecting hcollecting, hempty]
  have hnonempty : Utf8.encode text ≠ [] := by
    intro hnil
    have htext := Utf8.decodeLossy_encode text
    rw [hnil] at htext
    exact hfits.nonempty htext.symm
  have hread : Reference.read s'.terminal.consumed =
      { lines := s.terminal.dispatched ++ [Utf8.encode text], unfinished := [] } := by
    rw [hconsumed, Reference.read_append, hbefore.lines_of_collecting hcollecting]
    exact Reference.foldl_take_line hunfinished hfits.plain.kept hnonempty hfits.short hlast
  have hcollecting' : s'.editor.full = false := by
    refine Bool.eq_false_iff.mpr fun hfull => ?_
    have hlines := hafter.lines
    rw [hread, LineEditor.waiting, if_pos hfull] at hlines
    have hline := List.singleton_inj.mp (List.append_inj' hlines rfl).2
    have hshort := hfits.short
    rw [← hline, Array.length_toList, hafter.full_iff.mp hfull] at hshort
    exact Nat.lt_irrefl _ hshort
  rw [texts, hafter.lines_of_collecting hcollecting', hread, List.map_append, List.map_singleton,
    Utf8.decodeLossy_encode]
  rfl

/-- Every text handed out is not empty, has at most three bytes for each byte that a line may have,
and is without the characters that edit lines.  And a text that fits, typed on an empty line and
ended, is handed out as it is, by hand or by any other uses that take its bytes. -/
theorem texts_wellFormed {wire : Wire ω} {s : Session ω} (hs : s.Reachable wire) :
    (∀ text ∈ s.texts, IsLineText text) ∧
      (s.editor.pending = #[] → ∀ (text : String) (last : UInt8), Fits text → EndsLine last →
        (s.run wire ((Utf8.encode text ++ [last]).map .feed)).texts = s.texts ++ [text] ∧
          ∀ uses, (s.run wire uses).terminal.consumed =
              s.terminal.consumed ++ (Utf8.encode text ++ [last]) →
            (s.run wire uses).texts = s.texts ++ [text]) := by
  have htracked := hs.tracked
  refine ⟨fun text => htracked.isLineText, fun hempty text last hfits hlast => ⟨?_, ?_⟩⟩
  · exact htracked.texts_of_consumed (run_tracked htracked _) hempty hfits hlast
      (run_feed_consumed s _)
  · intro uses hconsumed
    exact htracked.texts_of_consumed (run_tracked htracked uses) hempty hfits hlast hconsumed

/-- On the bench: a text past ASCII is pumped in two parts, one cut inside a character. -/
def cut : List (Use ProbeWire) :=
  [.meanwhile fun p => { p with received := [0x32, 0x30, 0xC2] }, .pump,
    .meanwhile fun p => { p with received := [0xB0, 0x0D] }, .pump]

theorem texts_wellFormed_cut :
    (fresh true {}).Reachable ProbeWire.wire ∧ Fits "20°" ∧ EndsLine 0x0D ∧
      ((fresh true {}).run ProbeWire.wire cut).texts = ["20°"] ∧ IsLineText "20°" := by
  have hreachable : (fresh true {}).Reachable ProbeWire.wire := ⟨true, {}, [], rfl⟩
  have hbytes : Utf8.encode "20°" = [0x32, 0x30, 0xC2, 0xB0] := by
    rw [Utf8.encode_eq_flatMap]
    decide
  have hfits : Fits "20°" :=
    { nonempty := by decide
      short := by rw [hbytes]; decide
      plain := by simp [IsPlain, editing] }
  have hconsumed : ((fresh true {}).run ProbeWire.wire cut).terminal.consumed =
      [0x32, 0x30, 0xC2, 0xB0, 0x0D] := by decide
  have htext : ((fresh true {}).run ProbeWire.wire cut).texts = ["20°"] :=
    ((texts_wellFormed hreachable).2 rfl "20°" 0x0D hfits (Or.inl rfl)).2 cut
      (by rw [hconsumed, hbytes]; rfl)
  have hcut : ((fresh true {}).run ProbeWire.wire cut).Reachable ProbeWire.wire :=
    ⟨true, {}, cut, rfl⟩
  refine ⟨hreachable, hfits, Or.inl rfl, htext, (texts_wellFormed hcut).1 "20°" ?_⟩
  rw [htext]
  exact List.mem_singleton_self _

end Session

end FanBoard
