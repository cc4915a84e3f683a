import FanBoard.Terminal.Commands
import Mathlib

/-!
# Spellings of a command

A line may be spelled in more than one way.  `Respells` is one change of the spelling: the letters of the
first word in another case, more blanks around the line, or other blanks behind the first word.

* `Blank.trim_pad`: blanks around a text are trimmed away.
* `Command.words_of_parts`: the word of a line and its argument, from the parts of the line.
* `Respells.words`: a change of the spelling changes neither.
* `Commands.spelling_immaterial`: no change of the spelling changes what a line does, and a word that
  stands alone is rejected exactly where another word follows it.
-/

namespace FanBoard

/-! ## Blanks -/

namespace Blank

/-- A text of blanks only. -/
def AllBlank (cs : List Char) : Prop :=
  ∀ c ∈ cs, isBlank c = true

/-- A text without a blank. -/
def Solid (cs : List Char) : Prop :=
  ∀ c ∈ cs, isBlank c = false

/-- What can follow a word: nothing, or a text with a blank at its front. -/
def Detached (cs : List Char) : Prop :=
  ∀ c ∈ cs.head?, isBlank c = true

instance (cs : List Char) : Decidable (AllBlank cs) :=
  List.decidableBAll _ cs

instance (cs : List Char) : Decidable (Solid cs) :=
  List.decidableBAll _ cs

instance (cs : List Char) : Decidable (Detached cs) :=
  decidable_of_iff (cs.head?.all isBlank = true) (by cases cs <;> simp [Detached])

variable {cs front back gap word tail : List Char}

theorem Detached.of_append (h : Detached (cs ++ back)) : Detached cs := by
  intro c hc
  refine h c ?_
  rw [List.head?_append, hc]
  rfl

theorem AllBlank.detached_append (hgap : AllBlank gap) (hsome : gap ≠ []) (cs : List Char) :
    Detached (gap ++ cs) := by
  cases gap with
  | nil => exact absurd rfl hsome
  | cons c gap =>
    intro c' hc'
    cases hc'
    exact hgap c List.mem_cons_self

theorem trimFront_of_solid (h : Solid cs) : trimFront cs = cs := by
  cases cs with
  | nil => rfl
  | cons c cs =>
    have hc : isBlank c = false := h c List.mem_cons_self
    rw [trimFront, List.dropWhile_cons, hc, if_neg Bool.false_ne_true]

theorem trimFront_eq_nil_iff : trimFront cs = [] ↔ AllBlank cs :=
  List.dropWhile_eq_nil_iff

theorem trimFront_append (cs back : List Char) :
    trimFront (cs ++ back) = if trimFront cs = [] then trimFront back else trimFront cs ++ back := by
  simp [trimFront, List.dropWhile_append]

theorem trimFront_append_left (h : AllBlank front) (cs : List Char) :
    trimFront (front ++ cs) = trimFront cs := by
  rw [trimFront_append, if_pos (trimFront_eq_nil_iff.mpr h)]

theorem trim_eq (cs : List Char) : trim cs = (trimFront cs).rdropWhile isBlank := rfl

theorem rdropWhile_append_right (h : AllBlank back) (cs : List Char) :
    (cs ++ back).rdropWhile isBlank = cs.rdropWhile isBlank := by
  have hreverse : AllBlank back.reverse := fun c hc => h c (List.mem_reverse.mp hc)
  rw [List.rdropWhile, List.reverse_append, List.dropWhile_append_of_pos hreverse, List.rdropWhile]

/-- Blanks around a text are trimmed away. -/
theorem trim_pad (hfront : AllBlank front) (hback : AllBlank back) :
    trim (front ++ cs ++ back) = trim cs := by
  rw [List.append_assoc, trim_eq, trimFront_append_left hfront, trimFront_append, trim_eq]
  split_ifs with hcs
  · rw [hcs, trimFront_eq_nil_iff.mpr hback]
  · exact rdropWhile_append_right hback _

theorem trim_append_left (hfront : AllBlank front) (cs : List Char) : trim (front ++ cs) = trim cs := by
  rw [trim_eq, trimFront_append_left hfront, trim_eq]

theorem trim_eq_nil_iff : trim cs = [] ↔ AllBlank cs := by
  rw [trim_eq, List.rdropWhile_eq_nil_iff]
  constructor
  · intro h c hc
    have hsplit : cs.takeWhile isBlank ++ trimFront cs = cs := List.takeWhile_append_dropWhile
    rw [← hsplit, List.mem_append] at hc
    exact hc.elim List.mem_takeWhile_imp (h c)
  · intro h
    rw [trimFront_eq_nil_iff.mpr h]
    simp

/-- A text behind a word is trimmed at its end alone. -/
theorem rdropWhile_append_left (h : Solid word) (tail : List Char) :
    (word ++ tail).rdropWhile isBlank = word ++ tail.rdropWhile isBlank := by
  have hreverse : Solid word.reverse := fun c hc => h c (List.mem_reverse.mp hc)
  have htail : trimFront (tail.reverse ++ word.reverse) = trimFront tail.reverse ++ word.reverse := by
    rw [trimFront_append, trimFront_of_solid hreverse]
    split_ifs with hnone
    · rw [hnone, List.nil_append]
    · rfl
  rw [List.rdropWhile, List.reverse_append, ← trimFront, htail, List.reverse_append,
    List.reverse_reverse, List.rdropWhile, trimFront]

theorem splitWord_append (hword : Solid word) (htail : Detached tail) :
    splitWord (word ++ tail) = (word, tail.drop 1) := by
  have hpos : ∀ c ∈ word, (!isBlank c) = true := fun c hc => by rw [hword c hc, Bool.not_false]
  rw [splitWord, List.takeWhile_append_of_pos hpos, List.dropWhile_append_of_pos hpos]
  cases tail with
  | nil => simp
  | cons c tail =>
    have hc : isBlank c = true := htail c rfl
    simp [hc]

/-- What is left of the text behind a word, after its first blank, has the same middle. -/
theorem trim_drop_rdropWhile (htail : Detached tail) :
    trim ((tail.rdropWhile isBlank).drop 1) = trim tail := by
  have hsplit : tail.rdropWhile isBlank ++ tail.rtakeWhile isBlank = tail :=
    List.rdropWhile_append_rtakeWhile
  have hback : AllBlank (tail.rtakeWhile isBlank) := fun c => List.mem_rtakeWhile_imp
  rw [← hsplit] at htail
  conv_rhs => rw [← hsplit]
  cases hmiddle : tail.rdropWhile isBlank with
  | nil => rw [List.nil_append, trim_eq_nil_iff.mpr hback]; rfl
  | cons c cs =>
    rw [hmiddle] at htail
    have hc : AllBlank [c] := fun c' hc' => List.mem_singleton.mp hc' ▸ htail c rfl
    exact (trim_pad hc hback).symm

theorem isBlank_of_printable {c : Char} (hmin : 0x21 ≤ c.toNat) (hmax : c.toNat ≤ 0x7E) :
    isBlank c = false := by
  simp only [isBlank, Bool.or_eq_false_iff, Bool.and_eq_false_iff, decide_eq_false_iff_not,
    beq_eq_false_iff_ne]
  omega

theorem isBlank_toUpper (c : Char) : isBlank c.toUpper = isBlank c := by
  by_cases h : c.isLower = true
  · have hletter : 97 ≤ c.toNat ∧ c.toNat ≤ 122 := by
      simpa [Char.isLower, UInt32.le_iff_toNat_le] using h
    have hvalid : (c.toNat - 32).isValidChar := by
      unfold Nat.isValidChar
      omega
    have hupper : c.toUpper.toNat = c.toNat - 32 := by
      rw [Char.toUpper_eq_of_isLower h, Char.toNat_ofNat, if_pos hvalid]
    rw [isBlank_of_printable (c := c.toUpper) (by omega) (by omega),
      isBlank_of_printable (by omega) (by omega)]
  · rw [Char.toUpper_eq_of_not_isLower h]

theorem solid_map_toUpper : Solid (word.map Char.toUpper) ↔ Solid word := by
  simp only [Solid, List.forall_mem_map, isBlank_toUpper]

end Blank

/-! ## The words of a line -/

open Blank

namespace Command

/-- The first word of a line in capitals, and its argument. -/
def words (cs : List Char) : String × List Char :=
  let (word, rest) := splitWord (trim cs)
  (String.ofList (word.map Char.toUpper), trim rest)

theorem parse?_eq (line : String) :
    parse? line = ofWords? (words line.toList).1 (words line.toList).2 := rfl

variable {lead word tail : List Char}

/-- The words of a line from its parts: the blanks in front, the first word, and the rest. -/
theorem words_of_parts (hlead : AllBlank lead) (hword : Solid word) (hsome : word ≠ [])
    (htail : Detached tail) :
    words (lead ++ word ++ tail) = (String.ofList (word.map Char.toUpper), trim tail) := by
  have hfront : trimFront (word ++ tail) = word ++ tail := by
    rw [trimFront_append, trimFront_of_solid hword, if_neg hsome]
  have htrim : trim (lead ++ word ++ tail) = word ++ tail.rdropWhile isBlank := by
    rw [List.append_assoc, trim_eq, trimFront_append_left hlead, hfront, rdropWhile_append_left hword]
  have hrest : Detached (tail.rdropWhile isBlank) := by
    rw [← List.rdropWhile_append_rtakeWhile (p := isBlank) (l := tail)] at htail
    exact htail.of_append
  simp only [words, htrim, splitWord_append hword hrest, trim_drop_rdropWhile htail]

end Command

/-! ## Respelling -/

/-- The same letter, perhaps in another case. -/
def SameLetter (c d : Char) : Prop :=
  d = c ∨ d = c.toUpper ∨ d = c.toLower

theorem SameLetter.toUpper_eq {c d : Char} (h : SameLetter c d) : d.toUpper = c.toUpper := by
  rcases h with rfl | rfl | rfl
  · rfl
  · exact Char.toUpper_toUpper_eq_toUpper c
  · exact Char.toUpper_toLower_eq_toUpper c

theorem map_toUpper_eq {word word' : List Char} (h : List.Forall₂ SameLetter word word') :
    word'.map Char.toUpper = word.map Char.toUpper := by
  induction h with
  | nil => rfl
  | cons hletter _ ih => rw [List.map_cons, List.map_cons, hletter.toUpper_eq, ih]

/-- One change of the spelling of a line. -/
inductive Respells : List Char → List Char → Prop where
  /-- The letters of the first word are written in another case. -/
  | recase {lead word word' tail : List Char} (hlead : AllBlank lead) (hword : Solid word)
      (htail : Detached tail) (hletters : List.Forall₂ SameLetter word word') :
      Respells (lead ++ word ++ tail) (lead ++ word' ++ tail)
  /-- Blanks are added around the line. -/
  | pad {cs front back : List Char} (hfront : AllBlank front) (hback : AllBlank back) :
      Respells cs (front ++ cs ++ back)
  /-- The blanks behind the first word are replaced by others. -/
  | regap {lead word gap gap' rest : List Char} (hlead : AllBlank lead) (hword : Solid word)
      (hgap : AllBlank gap) (hsome : gap ≠ []) (hgap' : AllBlank gap') (hsome' : gap' ≠ []) :
      Respells (lead ++ word ++ (gap ++ rest)) (lead ++ word ++ (gap' ++ rest))

/-- A change of the spelling changes neither the word nor its argument. -/
theorem Respells.words {cs cs' : List Char} (h : Respells cs cs') :
    Command.words cs' = Command.words cs := by
  cases h with
  | @recase lead word word' tail hlead hword htail hletters =>
    have hupper := map_toUpper_eq hletters
    have hword' : Solid word' := by
      rw [← solid_map_toUpper, hupper]
      exact solid_map_toUpper.mpr hword
    rcases eq_or_ne word [] with rfl | hsome
    · cases hletters
      rfl
    · have hsome' : word' ≠ [] := by
        intro hnone
        rw [hnone] at hletters
        exact hsome (List.forall₂_nil_right_iff.mp hletters)
      rw [Command.words_of_parts hlead hword hsome htail,
        Command.words_of_parts hlead hword' hsome' htail, hupper]
  | pad hfront hback => rw [Command.words, trim_pad hfront hback, ← Command.words]
  | @regap lead word gap gap' rest hlead hword hgap hsome hgap' hsome' =>
    rcases eq_or_ne word [] with rfl | hne
    · -- without a word all these blanks stand in front of the line
      rw [List.append_nil, Command.words, trim_append_left hlead, trim_append_left hgap',
        ← trim_append_left hgap, ← trim_append_left hlead, ← Command.words]
    · rw [Command.words_of_parts hlead hword hne (hgap.detached_append hsome rest),
        Command.words_of_parts hlead hword hne (hgap'.detached_append hsome' rest),
        trim_append_left hgap, trim_append_left hgap']

theorem words_of_respells {cs cs' : List Char} (h : Relation.ReflTransGen Respells cs cs') :
    Command.words cs' = Command.words cs := by
  induction h with
  | refl => rfl
  | tail _ hstep ih => exact hstep.words.trans ih

/-- A line in another spelling, after any number of changes. -/
def Respelled (line line' : String) : Prop :=
  Relation.ReflTransGen Respells line.toList line'.toList

theorem Respelled.parse?_eq {line line' : String} (h : Respelled line line') :
    Command.parse? line' = Command.parse? line := by
  rw [Command.parse?_eq, Command.parse?_eq, words_of_respells h]

/-! ## Words that stand alone -/

namespace Command

/-- The words of the commands that take no argument. -/
def plainWords : List String :=
  ["*IDN?", "SYS:VER?", "SYS:STAT?", "MEAS?", "SYS:DEBUG?", "SYS:LOCKOUT"]

/-- They are the words that are commands by themselves. -/
theorem mem_plainWords_iff {word : String} :
    word ∈ plainWords ↔ (ofWords? word []).isSome = true := by
  simp only [ofWords?]
  split_ifs <;> simp_all [plainWords, smallNumber?]

/-- With an argument they are no commands. -/
theorem ofWords?_of_argument {word : String} (hword : word ∈ plainWords) {argument : List Char}
    (hsome : argument ≠ []) : ofWords? word argument = none := by
  have hdebug : word ≠ "SYS:DEBUG" := by
    rintro rfl
    simp [plainWords] at hword
  have hargument : (!argument.isEmpty) = true := by simpa using hsome
  rw [ofWords?, if_neg hdebug, if_pos hargument]

theorem solid_of_plain {word : List Char} (h : String.ofList (word.map Char.toUpper) ∈ plainWords) :
    Solid word ∧ word ≠ [] := by
  have hall : ∀ plain ∈ plainWords, Solid plain.toList ∧ plain.toList ≠ [] := by
    simp [plainWords, Solid, isBlank]
  have hword := hall _ h
  rw [String.toList_ofList, solid_map_toUpper] at hword
  exact ⟨hword.1, fun hnone => hword.2 (by rw [hnone, List.map_nil])⟩

/-- A line that begins with such a word is a command unless something follows the word. -/
theorem parse?_plain {lead word tail : List Char} (hlead : AllBlank lead)
    (hword : String.ofList (word.map Char.toUpper) ∈ plainWords) (htail : Detached tail) :
    parse? (String.ofList (lead ++ word ++ tail)) = none ↔ ∃ c ∈ tail, isBlank c = false := by
  obtain ⟨hsolid, hsome⟩ := solid_of_plain hword
  have hwords := words_of_parts hlead hsolid hsome htail
  rw [parse?_eq, String.toList_ofList, hwords]
  by_cases hnone : AllBlank tail
  · have hcommand := mem_plainWords_iff.mp hword
    rw [trim_eq_nil_iff.mpr hnone, Option.eq_none_iff_forall_ne_some]
    constructor
    · intro h
      obtain ⟨command, heq⟩ := Option.isSome_iff_exists.mp hcommand
      exact absurd heq (h command)
    · rintro ⟨c, hc, hblank⟩
      rw [hnone c hc] at hblank
      exact Bool.noConfusion hblank
  · rw [ofWords?_of_argument hword fun h => hnone (trim_eq_nil_iff.mp h)]
    simpa [AllBlank] using hnone

end Command

namespace Commands

variable (peer : Nat → Lockout.Words → Lockout.Words) (counters : Commands) (c : Context)

/-- The line is answered `ERR` and counted as rejected, and it does nothing else. -/
def Rejects (line : String) : Prop :=
  process peer counters c line = ({ counters with rejected := counters.rejected + 1 }, ["ERR"], c)

theorem rejects_iff (line : String) :
    Rejects peer counters c line ↔ Command.parse? line = none := by
  unfold Rejects process
  cases Command.parse? line with
  | none => simp
  | some command => simp

/-- No change of the spelling changes what a line does.  A line with a command word that stands alone is
rejected exactly if something other than blanks follows the word. -/
theorem spelling_immaterial :
    (∀ {line line' : String}, Respelled line line' →
      process peer counters c line' = process peer counters c line) ∧
    ∀ {lead word tail : List Char}, AllBlank lead →
      String.ofList (word.map Char.toUpper) ∈ Command.plainWords → Detached tail →
      (Rejects peer counters c (String.ofList (lead ++ word ++ tail)) ↔
        ∃ d ∈ tail, isBlank d = false) := by
  constructor
  · intro line line' h
    unfold process
    rw [h.parse?_eq]
  · intro lead word tail hlead hword htail
    rw [rejects_iff]
    exact Command.parse?_plain hlead hword htail

/-- A limit of the log, first with one blank, then in small letters with a tab. -/
theorem respelled_debug : Respelled "SYS:DEBUG 3" "\tsys:debug\t3 " := by
  have hrecase : Respells "SYS:DEBUG 3".toList "sys:debug 3".toList :=
    @Respells.recase [] "SYS:DEBUG".toList "sys:debug".toList [' ', '3'] (by decide)
      (by decide) (by decide) (by simp [SameLetter])
  have hregap : Respells "sys:debug 3".toList "sys:debug\t3".toList :=
    @Respells.regap [] "sys:debug".toList [' '] ['\t'] ['3'] (by decide)
      (by decide) (by decide) (by simp)
      (by decide) (by simp)
  have hpad : Respells "sys:debug\t3".toList "\tsys:debug\t3 ".toList :=
    @Respells.pad "sys:debug\t3".toList ['\t'] [' '] (by decide)
      (by decide)
  exact ((Relation.ReflTransGen.single hrecase).tail hregap).tail hpad

/-- A board that has just started. -/
def freshContext : Context where
  signals := .zero
  settings := {}
  metrics := {}
  shared := { clock := { reading := fun n => n } }

theorem spelling_immaterial_debug :
    Respelled "SYS:DEBUG 3" "\tsys:debug\t3 " ∧
      process (fun _ w => w) {} freshContext "\tsys:debug\t3 " =
        process (fun _ w => w) {} freshContext "SYS:DEBUG 3" ∧
      Detached [' ', 'x'] ∧
      Rejects (fun _ w => w) {} freshContext
        (String.ofList ([' '] ++ ['m', 'e', 'a', 's', '?'] ++ [' ', 'x'])) := by
  obtain ⟨hspelling, hplain⟩ := spelling_immaterial (fun _ w => w) {} freshContext
  have hdetached : Detached [' ', 'x'] := by decide
  refine ⟨respelled_debug, hspelling respelled_debug, hdetached, ?_⟩
  have hword : String.ofList (['m', 'e', 'a', 's', '?'].map Char.toUpper) ∈ Command.plainWords := by
    decide
  refine (hplain ?_ hword hdetached).mpr ⟨'x', by simp, by simp [isBlank]⟩
  decide

end Commands

end FanBoard
