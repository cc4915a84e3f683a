import FanBoard.Json.Reader
import FanBoard.Proofs.Json.Literal
import Mathlib.Data.List.DropRight

/-!
# The texts of a document

Which texts spell a document, and that the reader reads every one of them.

* `TextSpells`: the characters between two quotes, as themselves or escaped.
* `Spells`: the grammar, with blanks between any two tokens.  One relation covers values, the items
  of an array and the members of an object, so there is one induction over all of them.
* `Phrase.Read` says how the reader takes a phrase off the front of a text.  A number ends where
  something else begins, and an array may not begin with its closing bracket, so the statement also
  says what may follow a phrase and how the phrase begins.
* `scanValue_opening`: what the reader does after a bracket or a brace.
* `Spells.read`: every phrase is read.
* `read?_spells`: every text of a document is read as that document.
-/

namespace FanBoard.Json

open Literal (Ends)

/-! ## The grammar -/

/-- The text holds nothing but blanks. -/
def Blank (ws : List Char) : Prop :=
  ∀ c ∈ ws, isBlank c = true

/-- The characters between two quotes that spell code units. -/
inductive TextSpells : List UInt16 → List Char → Prop
  | nil : TextSpells [] []
  /-- A character that stands for itself. -/
  | plain {c : Char} {us : List UInt16} {cs : List Char} (hcontrol : 0x20 ≤ c.toNat)
      (hquote : c ≠ '"') (hslash : c ≠ '\\') (h : TextSpells us cs) :
      TextSpells (Utf16.units c ++ us) (c :: cs)
  /-- A one-letter escape. -/
  | escape {e : Char} {u : UInt16} {us : List UInt16} {cs : List Char} (hunit : escape? e = some u)
      (h : TextSpells us cs) : TextSpells (u :: us) ('\\' :: e :: cs)
  /-- An escape by four hexadecimal digits. -/
  | code {a b c d : Char} {u : UInt16} {us : List UInt16} {cs : List Char}
      (hunit : hexUnit? a b c d = some u) (h : TextSpells us cs) :
      TextSpells (u :: us) ('\\' :: 'u' :: a :: b :: c :: d :: cs)

/-- What a part of a document stands for. -/
inductive Phrase where
  | value (j : Json)
  /-- The items of an array, of which there is at least one. -/
  | items (js : List Json)
  | member (m : List UInt16 × Json)
  /-- The members of an object, of which there is at least one. -/
  | members (ms : List (List UInt16 × Json))

/-- The texts of a phrase. -/
inductive Spells : Phrase → List Char → Prop
  | null : Spells (.value .null) ['n', 'u', 'l', 'l']
  | true : Spells (.value (.bool true)) ['t', 'r', 'u', 'e']
  | false : Spells (.value (.bool false)) ['f', 'a', 'l', 's', 'e']
  | number {l : Literal} {cs : List Char} (h : l.SpelledBy cs) : Spells (.value (.number l)) cs
  | text {us : List UInt16} {cs : List Char} (h : TextSpells us cs) :
      Spells (.value (.text us)) ('"' :: (cs ++ ['"']))
  | emptyArray {ws : List Char} (h : Blank ws) : Spells (.value (.array [])) ('[' :: (ws ++ [']']))
  | array {js : List Json} {cs : List Char} (h : Spells (.items js) cs) :
      Spells (.value (.array js)) ('[' :: (cs ++ [']']))
  | emptyObject {ws : List Char} (h : Blank ws) :
      Spells (.value (.object [])) ('\x7b' :: (ws ++ ['\x7d']))
  | object {ms : List (List UInt16 × Json)} {cs : List Char} (h : Spells (.members ms) cs) :
      Spells (.value (.object ms)) ('\x7b' :: (cs ++ ['\x7d']))
  /-- Blanks may stand before and after a value. -/
  | spaced {ws ws' : List Char} {j : Json} {cs : List Char} (hws : Blank ws) (hws' : Blank ws')
      (h : Spells (.value j) cs) : Spells (.value j) (ws ++ cs ++ ws')
  | item {j : Json} {cs : List Char} (h : Spells (.value j) cs) : Spells (.items [j]) cs
  | items {j : Json} {js : List Json} {cs cs' : List Char} (h : Spells (.value j) cs)
      (h' : Spells (.items js) cs') : Spells (.items (j :: js)) (cs ++ ',' :: cs')
  /-- A name and its value, with blanks around the name. -/
  | member {ws ws' : List Char} {key : List UInt16} {j : Json} {ks cs : List Char}
      (hws : Blank ws) (hws' : Blank ws') (hkey : TextSpells key ks) (h : Spells (.value j) cs) :
      Spells (.member (key, j)) (ws ++ '"' :: (ks ++ '"' :: (ws' ++ ':' :: cs)))
  | last {m : List UInt16 × Json} {cs : List Char} (h : Spells (.member m) cs) :
      Spells (.members [m]) cs
  | members {m : List UInt16 × Json} {ms : List (List UInt16 × Json)} {cs cs' : List Char}
      (h : Spells (.member m) cs) (h' : Spells (.members ms) cs') :
      Spells (.members (m :: ms)) (cs ++ ',' :: cs')

/-! ## Blanks -/

section

variable {c : Char} {ws cs tail : List Char}

theorem skipBlank_cons (h : isBlank c = false) : skipBlank (c :: cs) = c :: cs := by
  rw [skipBlank, List.dropWhile_cons, h]
  rfl

theorem Blank.skip (h : Blank ws) (cs : List Char) : skipBlank (ws ++ cs) = skipBlank cs :=
  List.dropWhile_append_of_pos h

theorem skipBlank_skipBlank (cs : List Char) : skipBlank (skipBlank cs) = skipBlank cs :=
  List.dropWhile_idempotent _ _

theorem skipBlank_append (h : skipBlank cs = c :: tail) (rest : List Char) :
    skipBlank (cs ++ rest) = c :: (tail ++ rest) := by
  rw [skipBlank, List.dropWhile_append, ← skipBlank, h]
  rfl

/-- Blanks end a number, and so does what follows them. -/
theorem Blank.ends (h : Blank ws) {rest : List Char} (hrest : Ends rest) : Ends (ws ++ rest) := by
  cases ws with
  | nil => exact hrest
  | cons b ws =>
    intro c hc
    obtain rfl : b = c := Option.some.inj hc
    have hb := h b List.mem_cons_self
    simp only [isBlank, Bool.or_eq_true, beq_iff_eq] at hb
    rcases hb with ((rfl | rfl) | rfl) | rfl <;> decide

/-- The end of an item, of an array and of an object ends a number. -/
theorem ends_mark (rest : List Char) :
    Ends (',' :: rest) ∧ Ends (']' :: rest) ∧ Ends ('\x7d' :: rest) := by
  refine ⟨?_, ?_, ?_⟩ <;> exact fun c hc => by cases hc; decide

/-- The text begins with the character `c` after its blanks. -/
def Begins (c : Char) (cs : List Char) : Prop :=
  ∃ tail, skipBlank cs = c :: tail

theorem Begins.cons (h : isBlank c = false) : Begins c (c :: cs) :=
  ⟨cs, skipBlank_cons h⟩

theorem Begins.append (h : Begins c cs) (rest : List Char) : Begins c (cs ++ rest) := by
  obtain ⟨tail, htail⟩ := h
  exact ⟨_, skipBlank_append htail rest⟩

theorem Begins.spaced (h : Begins c cs) (hws : Blank ws) : Begins c (ws ++ cs) := by
  rwa [Begins, hws.skip]

end

theorem scanValue_skipBlank (fuel : Nat) (cs : List Char) :
    scanValue fuel (skipBlank cs) = scanValue fuel cs := by
  cases fuel with
  | zero => rfl
  | succ fuel => rw [scanValue, scanValue, skipBlank_skipBlank]

/-- After a bracket or a brace the reader goes by the next character that is no blank. -/
theorem scanValue_opening {fuel : Nat} {cs tail : List Char} {c : Char}
    (h : skipBlank cs = c :: tail) :
    scanValue (fuel + 1) ('[' :: cs) =
        (if c = ']' then some (.array [], tail)
          else (scanItems fuel (c :: tail)).map fun (items, after) => (.array items, after)) ∧
      scanValue (fuel + 1) ('\x7b' :: cs) =
        (if c = '\x7d' then some (.object [], tail)
          else (scanMembers fuel (c :: tail)).map fun (members, after) =>
            (.object members, after)) := by
  constructor
  all_goals
    rw [scanValue, skipBlank_cons (by decide)]
    simp only [h]
    split
    case h_1 after heq =>
      obtain ⟨rfl, rfl⟩ := List.cons.inj heq
      rfl
    case h_2 hne =>
      rw [if_neg fun hc => hne tail (by rw [hc])]
      exact Option.map_eq_bind.symm

theorem scanItems_skipBlank (fuel : Nat) (cs : List Char) :
    scanItems fuel (skipBlank cs) = scanItems fuel cs := by
  cases fuel with
  | zero => rfl
  | succ fuel => rw [scanItems, scanItems, scanValue_skipBlank]

theorem scanMembers_skipBlank (fuel : Nat) (cs : List Char) :
    scanMembers fuel (skipBlank cs) = scanMembers fuel cs := by
  cases fuel with
  | zero => rfl
  | succ fuel => rw [scanMembers, scanMembers, skipBlank_skipBlank]

/-! ## Reading the phrases -/

/-- How the reader takes a phrase off the front of a text. -/
def Phrase.Read : Phrase → List Char → Prop
  | .value j, cs => (∃ c, c ≠ ']' ∧ Begins c cs) ∧
      ∀ fuel rest, cs.length ≤ fuel → Ends rest →
        ∃ after, scanValue fuel (cs ++ rest) = some (j, after) ∧ skipBlank after = skipBlank rest
  | .items js, cs => (∃ c, c ≠ ']' ∧ Begins c cs) ∧
      ∀ fuel rest, cs.length + 1 ≤ fuel → scanItems fuel (cs ++ ']' :: rest) = some (js, rest)
  | .member m, cs => Begins '"' cs ∧
      ∀ fuel rest, cs.length ≤ fuel →
        scanMembers (fuel + 1) (cs ++ '\x7d' :: rest) = some ([m], rest) ∧
        scanMembers (fuel + 1) (cs ++ ',' :: rest) =
          (scanMembers fuel rest).map fun (ms, after) => (m :: ms, after)
  | .members ms, cs => Begins '"' cs ∧
      ∀ fuel rest, cs.length + 1 ≤ fuel → scanMembers fuel (cs ++ '\x7d' :: rest) = some (ms, rest)

/-- The units are read up to the closing quote. -/
theorem TextSpells.scan {us : List UInt16} {cs : List Char} (h : TextSpells us cs)
    (rest : List Char) : scanText (cs ++ '"' :: rest) = some (us, rest) := by
  induction h with
  | nil => rfl
  | @plain c us cs hcontrol hquote hslash _ ih =>
    rw [List.cons_append, scanText]
    · rw [if_neg (by simp [hcontrol, hslash]), ih]
      rfl
    · exact hquote
    · exact fun _ _ _ _ _ heq _ => hslash heq
    · exact fun _ _ heq _ => hslash heq
  | @escape e u us cs hunit _ ih =>
    rw [List.cons_append, List.cons_append, scanText]
    · rw [hunit, ih]
      rfl
    · rintro a b c d rest' rfl -
      cases hunit
  | @code a b c d u us cs hunit _ ih =>
    simp only [List.cons_append, scanText, hunit, ih, Option.bind_eq_bind, Option.bind_some,
      Option.pure_def]

section

variable {j : Json} {js : List Json} {m : List UInt16 × Json} {ms : List (List UInt16 × Json)}
  {c : Char} {cs cs' : List Char}

/-- A value that begins with a character of its own and leaves exactly what follows it. -/
theorem read_value (hblank : isBlank c = false) (hc : c ≠ ']')
    (h : ∀ fuel rest, cs.length ≤ fuel → Ends rest →
      scanValue (fuel + 1) (c :: cs ++ rest) = some (j, rest)) :
    (Phrase.value j).Read (c :: cs) := by
  refine ⟨⟨c, hc, Begins.cons hblank⟩, fun fuel rest hfuel hrest => ?_⟩
  cases fuel with
  | zero => exact absurd hfuel (Nat.not_succ_le_zero _)
  | succ fuel => exact ⟨rest, h fuel rest (Nat.le_of_succ_le_succ hfuel) hrest, rfl⟩

/-- The characters that begin a value or end a list, and the blanks. -/
def isMark (c : Char) : Bool :=
  isBlank c || ['n', 't', 'f', '"', '[', ']', '\x7b', '\x7d'].contains c

/-- The text of a number begins with none of them. -/
theorem spelled_begins {l : Literal} (h : l.SpelledBy cs) :
    ∃ c rest, cs = c :: rest ∧ isMark c = false := by
  have hdigit : ∀ d : Digit, isMark d.toChar = false := by decide
  obtain ⟨hformed, mark, -, rfl⟩ := h
  rw [Literal.spelling]
  cases l.negative with
  | true => exact ⟨_, _, rfl, by decide⟩
  | false =>
    obtain ⟨d, cs, hhead⟩ := Literal.head?_whole hformed
    rw [hhead]
    exact ⟨_, _, rfl, hdigit d⟩

theorem read_number {l : Literal} (h : l.SpelledBy cs) : (Phrase.value (.number l)).Read cs := by
  obtain ⟨c, cs, rfl, hc⟩ := spelled_begins h
  have hblank : isBlank c = false := (Bool.or_eq_false_iff.mp hc).1
  refine read_value hblank (by rintro rfl; exact absurd hc (by decide)) fun fuel rest _ hrest => ?_
  have hscan := Literal.scan_spelled h hrest
  rw [List.cons_append] at hscan ⊢
  rw [scanValue, skipBlank_cons hblank]
  split
  case h_7 =>
    rw [hscan]
    rfl
  -- no other value begins like a number
  all_goals
    rename_i heq
    rw [(List.cons.inj heq).1] at hc
    exact absurd hc (by decide)

/-- A value between two marks. -/
theorem read_enclosed {c' : Char} (hblank : isBlank c = false) (hc : c ≠ ']')
    (h : ∀ fuel rest, cs.length + 1 ≤ fuel →
      scanValue (fuel + 1) (c :: (cs ++ c' :: rest)) = some (j, rest)) :
    (Phrase.value j).Read (c :: (cs ++ [c'])) := by
  refine read_value hblank hc fun fuel rest hfuel _ => ?_
  rw [List.length_append, List.length_singleton] at hfuel
  rw [List.cons_append, List.append_assoc, List.singleton_append]
  exact h fuel rest hfuel

theorem read_text {us : List UInt16} (h : TextSpells us cs) :
    (Phrase.value (.text us)).Read ('"' :: (cs ++ ['"'])) := by
  refine read_enclosed (by decide) (by decide) fun fuel rest _ => ?_
  show (scanText (cs ++ '"' :: rest)).bind _ = _
  rw [h.scan]
  rfl

/-- Nothing but blanks stands between the brackets. -/
theorem read_emptyArray (h : Blank cs) :
    (Phrase.value (.array [])).Read ('[' :: (cs ++ [']'])) := by
  refine read_enclosed (by decide) (by decide) fun fuel rest _ => ?_
  have hnext : skipBlank (cs ++ ']' :: rest) = ']' :: rest := by
    rw [h.skip, skipBlank_cons (by decide)]
  exact (scanValue_opening hnext).1

theorem read_emptyObject (h : Blank cs) :
    (Phrase.value (.object [])).Read ('\x7b' :: (cs ++ ['\x7d'])) := by
  refine read_enclosed (by decide) (by decide) fun fuel rest _ => ?_
  have hnext : skipBlank (cs ++ '\x7d' :: rest) = '\x7d' :: rest := by
    rw [h.skip, skipBlank_cons (by decide)]
  exact (scanValue_opening hnext).2

/-- The items are read after the opening bracket, since they do not begin with the closing one. -/
theorem read_array (h : (Phrase.items js).Read cs) :
    (Phrase.value (.array js)).Read ('[' :: (cs ++ [']'])) := by
  obtain ⟨⟨c, hc, hbegins⟩, hscan⟩ := h
  refine read_enclosed (by decide) (by decide) fun fuel rest hfuel => ?_
  obtain ⟨tail, htail⟩ := hbegins.append (']' :: rest)
  have hitems := hscan fuel rest hfuel
  rw [← scanItems_skipBlank, htail] at hitems
  rw [(scanValue_opening htail).1, if_neg hc, hitems]
  rfl

theorem read_object (h : (Phrase.members ms).Read cs) :
    (Phrase.value (.object ms)).Read ('\x7b' :: (cs ++ ['\x7d'])) := by
  obtain ⟨hbegins, hscan⟩ := h
  refine read_enclosed (by decide) (by decide) fun fuel rest hfuel => ?_
  obtain ⟨tail, htail⟩ := hbegins.append ('\x7d' :: rest)
  have hmembers := hscan fuel rest hfuel
  rw [← scanMembers_skipBlank, htail] at hmembers
  rw [(scanValue_opening htail).2, if_neg (by decide), hmembers]
  rfl

/-- Blanks in front are skipped, and those behind are left over. -/
theorem read_spaced {ws ws' : List Char} (hws : Blank ws) (hws' : Blank ws')
    (h : (Phrase.value j).Read cs) : (Phrase.value j).Read (ws ++ cs ++ ws') := by
  obtain ⟨⟨c, hc, hbegins⟩, hscan⟩ := h
  refine ⟨⟨c, hc, (hbegins.spaced hws).append ws'⟩, fun fuel rest hfuel hrest => ?_⟩
  rw [List.length_append, List.length_append] at hfuel
  obtain ⟨after, hvalue, hafter⟩ := hscan fuel (ws' ++ rest) (by omega) (hws'.ends hrest)
  refine ⟨after, ?_, hafter.trans (hws'.skip rest)⟩
  rw [← hvalue, List.append_assoc, List.append_assoc, ← scanValue_skipBlank, hws.skip,
    scanValue_skipBlank]

theorem read_item (h : (Phrase.value j).Read cs) : (Phrase.items [j]).Read cs := by
  obtain ⟨hbegins, hscan⟩ := h
  refine ⟨hbegins, fun fuel rest hfuel => ?_⟩
  obtain ⟨fuel, rfl⟩ := Nat.exists_eq_add_one_of_ne_zero (Nat.ne_zero_of_lt hfuel)
  obtain ⟨after, hvalue, hafter⟩ :=
    hscan fuel (']' :: rest) (Nat.le_of_lt_succ hfuel) (ends_mark rest).2.1
  rw [skipBlank_cons (by decide)] at hafter
  rw [scanItems, hvalue]
  simp only [Option.bind_eq_bind, Option.bind_some, hafter]

theorem read_items (h : (Phrase.value j).Read cs) (h' : (Phrase.items js).Read cs') :
    (Phrase.items (j :: js)).Read (cs ++ ',' :: cs') := by
  obtain ⟨⟨c, hc, hbegins⟩, hscan⟩ := h
  refine ⟨⟨c, hc, hbegins.append _⟩, fun fuel rest hfuel => ?_⟩
  obtain ⟨fuel, rfl⟩ := Nat.exists_eq_add_one_of_ne_zero (Nat.ne_zero_of_lt hfuel)
  rw [List.length_append, List.length_cons] at hfuel
  obtain ⟨after, hvalue, hafter⟩ :=
    hscan fuel (',' :: (cs' ++ ']' :: rest)) (by omega) (ends_mark _).1
  rw [skipBlank_cons (by decide)] at hafter
  rw [List.append_assoc, List.cons_append, scanItems, hvalue]
  simp only [Option.bind_eq_bind, Option.bind_some, hafter, h'.2 fuel rest (by omega),
    Option.pure_def]

/-- The name is read, then the value, and then what follows it. -/
theorem read_member {ws ws' : List Char} {key : List UInt16} {ks : List Char} (hws : Blank ws)
    (hws' : Blank ws') (hkey : TextSpells key ks) (h : (Phrase.value j).Read cs) :
    (Phrase.member (key, j)).Read (ws ++ '"' :: (ks ++ '"' :: (ws' ++ ':' :: cs))) := by
  refine ⟨(Begins.cons (by decide)).spaced hws, fun fuel rest hfuel => ?_⟩
  have hlength : cs.length ≤ fuel := by
    simp only [List.length_append, List.length_cons] at hfuel
    omega
  have htext (mark : Char) :
      ws ++ '"' :: (ks ++ '"' :: (ws' ++ ':' :: cs)) ++ mark :: rest =
        ws ++ '"' :: (ks ++ '"' :: (ws' ++ ':' :: (cs ++ mark :: rest))) := by simp
  constructor
  · obtain ⟨after, hvalue, hafter⟩ := h.2 fuel ('\x7d' :: rest) hlength (ends_mark rest).2.2
    rw [skipBlank_cons (by decide)] at hafter
    rw [htext, scanMembers, hws.skip, skipBlank_cons (by decide)]
    simp only [hkey.scan, hws'.skip, skipBlank_cons (show isBlank ':' = false by decide), hvalue,
      hafter, Option.bind_eq_bind, Option.bind_some]
  · obtain ⟨after, hvalue, hafter⟩ := h.2 fuel (',' :: rest) hlength (ends_mark rest).1
    rw [skipBlank_cons (by decide)] at hafter
    rw [htext, scanMembers, hws.skip, skipBlank_cons (by decide)]
    simp only [hkey.scan, hws'.skip, skipBlank_cons (show isBlank ':' = false by decide), hvalue,
      hafter, Option.bind_eq_bind, Option.bind_some, Option.pure_def]
    exact Option.map_eq_bind.symm

theorem read_last (h : (Phrase.member m).Read cs) : (Phrase.members [m]).Read cs := by
  refine ⟨h.1, fun fuel rest hfuel => ?_⟩
  obtain ⟨fuel, rfl⟩ := Nat.exists_eq_add_one_of_ne_zero (Nat.ne_zero_of_lt hfuel)
  exact (h.2 fuel rest (Nat.le_of_lt_succ hfuel)).1

theorem read_members (h : (Phrase.member m).Read cs) (h' : (Phrase.members ms).Read cs') :
    (Phrase.members (m :: ms)).Read (cs ++ ',' :: cs') := by
  refine ⟨h.1.append _, fun fuel rest hfuel => ?_⟩
  obtain ⟨fuel, rfl⟩ := Nat.exists_eq_add_one_of_ne_zero (Nat.ne_zero_of_lt hfuel)
  rw [List.length_append, List.length_cons] at hfuel
  rw [List.append_assoc, List.cons_append, (h.2 fuel _ (by omega)).2, h'.2 fuel rest (by omega)]
  rfl

end

/-- Every phrase is read from its text. -/
theorem Spells.read {p : Phrase} {cs : List Char} (h : Spells p cs) : p.Read cs := by
  induction h with
  | null | true | false => exact read_value (by decide) (by decide) fun _ _ _ _ => rfl
  | number h => exact read_number h
  | text h => exact read_text h
  | emptyArray h => exact read_emptyArray h
  | array _ ih => exact read_array ih
  | emptyObject h => exact read_emptyObject h
  | object _ ih => exact read_object ih
  | spaced hws hws' _ ih => exact read_spaced hws hws' ih
  | item _ ih => exact read_item ih
  | items _ _ ih ih' => exact read_items ih ih'
  | member hws hws' hkey _ ih => exact read_member hws hws' hkey ih
  | last _ ih => exact read_last ih
  | members _ _ ih ih' => exact read_members ih ih'

/-- Every text of a document is read as that document. -/
theorem read?_spells {j : Json} {text : String} (h : Spells (.value j) text.toList) :
    read? text = some j := by
  obtain ⟨after, hscan, hafter⟩ := h.read.2 (2 * text.toList.length + 2) [] (by omega) nofun
  rw [List.append_nil] at hscan
  have hempty : skipBlank after = [] := hafter
  rw [read?]
  simp only [hscan, hempty]
  rfl

end FanBoard.Json
