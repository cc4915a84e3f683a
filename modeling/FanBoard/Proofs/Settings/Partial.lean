import FanBoard.Proofs.Json.Document
import FanBoard.Proofs.Json.Record
import FanBoard.Settings.Document
import Mathlib.Data.List.Nodup

/-!
# Settings that are given in part

A document gives values to some of the settings.  The others keep their defaults, on each of the
three levels: in the settings, in the thresholds and in the intervals.

* `Thresholds.SpelledBy`, `Intervals.SpelledBy` and `Settings.SpelledBy` say field by field what a
  document gives: the value under the name of the field, or else the default.
* `Settings.Alike`: two documents that give the same values on every level.
* `Settings.NamesTwice`: a document with a field that is named twice.
* `Settings.fields_apart`: the fields can be put in any order.
* `Settings.ofJson?_spelledBy`: the record is read field by field.
* `Settings.parse_partial` is the result for all texts of such documents.
-/

namespace FanBoard

open Json (Spells)

/-! ## What a document gives to a field -/

namespace Json

/-- The value of a field: what the document gives, or else the default. -/
def Given {β : Type} (entry : Option Json) (reads : Json → β → Prop) (default x : β) : Prop :=
  match entry with
  | some j => reads j x
  | none => x = default

/-- A natural number that is written by its digits. -/
def IsNatural (j : Json) (n : Nat) : Prop :=
  ∃ ds, j = .number ⟨false, ds, none, none⟩ ∧ Digit.toNat ds = n

def IsBool (j : Json) (b : Bool) : Prop :=
  j = .bool b

def IsWord (j : Json) (n : UInt32) : Prop :=
  j.IsNatural n.toNat

/-- A number whose value is rounded to the single. -/
def IsSingle (j : Json) (x : Float32) : Prop :=
  ∃ l, j = .number l ∧ l.single? = some x

/-- The number of a mode. -/
def IsMode (j : Json) (mode : LedMode) : Prop :=
  ∃ n ≤ 255, j.IsNatural n ∧ mode = .ofCode n

end Json

open Json (Given IsBool IsWord IsSingle IsMode)

namespace Thresholds

/-- The names of the thresholds in order. -/
def names : List String :=
  fields.map (·.name)

/-- The defaults with the thresholds that a document gives. -/
structure SpelledBy (j : Json) (t : Thresholds) : Prop where
  isRecord : j.IsRecord names
  inputDuty : Given (j.given? names "input_duty") IsSingle 0.5 t.inputDuty
  outputDuty : Given (j.given? names "output_duty") IsSingle 0.1 t.outputDuty
  inputTach : Given (j.given? names "input_freq") IsSingle 0.5 t.inputTach
  outputTach : Given (j.given? names "output_freq") IsSingle 0.1 t.outputTach
  temperature : Given (j.given? names "temperature") IsSingle 0.5 t.temperature

/-- Two documents that give the same thresholds. -/
def Alike (j j' : Json) : Prop :=
  Json.SameRecord names (fun _ => Eq) j j'

end Thresholds

namespace Intervals

/-- The names of the intervals in order. -/
def names : List String :=
  fields.map (·.name)

/-- The defaults with the intervals that a document gives. -/
structure SpelledBy (j : Json) (i : Intervals) : Prop where
  isRecord : j.IsRecord names
  networkPoll : Given (j.given? names "network_poll_ms") IsWord 1 i.networkPoll
  statusLed : Given (j.given? names "status_led_ms") IsWord 1000 i.statusLed
  display : Given (j.given? names "display_ms") IsWord 2000 i.display
  inputDuty : Given (j.given? names "input_duty_ms") IsWord 1500 i.inputDuty
  temperature : Given (j.given? names "temperature_ms") IsWord 10000 i.temperature
  inputTach : Given (j.given? names "input_freq_ms") IsWord 2000 i.inputTach
  outputUpdate : Given (j.given? names "output_update_ms") IsWord 3000 i.outputUpdate

/-- Two documents that give the same intervals. -/
def Alike (j j' : Json) : Prop :=
  Json.SameRecord names (fun _ => Eq) j j'

end Intervals

namespace Settings

/-- The names of the settings in order. -/
def names : List String :=
  fields.map (·.name)

/-- The defaults with the settings that a document gives. -/
structure SpelledBy (j : Json) (s : Settings) : Prop where
  isRecord : j.IsRecord names
  localEcho : Given (j.given? names "local_echo") IsBool false s.localEcho
  consoleWait : Given (j.given? names "console_wait_ms") IsWord 2500 s.consoleWait
  ledMode : Given (j.given? names "led_mode") IsMode .slowBlink s.ledMode
  thresholds : Given (j.given? names "thresholds") Thresholds.SpelledBy {} s.thresholds
  intervals : Given (j.given? names "intervals") Intervals.SpelledBy {} s.intervals
  tachWindow : Given (j.given? names "tach_window_ms") IsWord 1000 s.tachWindow
  lockoutTimeout : Given (j.given? names "lockout_timeout_ms") IsWord 100 s.lockoutTimeout
  watchdogTimeout : Given (j.given? names "watchdog_timeout_ms") IsWord 8000 s.watchdogTimeout

/-- Two values of a field that say the same. -/
def SameValue (name : String) (j j' : Json) : Prop :=
  j = j' ∨ name = "thresholds" ∧ Thresholds.Alike j j' ∨ name = "intervals" ∧ Intervals.Alike j j'

/-- Two documents that give the same settings. -/
def Alike (j j' : Json) : Prop :=
  Json.SameRecord names SameValue j j'

/-- A field of the settings, of their thresholds or of their intervals is named twice. -/
def NamesTwice (j : Json) : Prop :=
  j.NamesTwice names ∨
    (∃ v, j.given? names "thresholds" = some v ∧ v.NamesTwice Thresholds.names) ∨
    ∃ v, j.given? names "intervals" = some v ∧ v.NamesTwice Intervals.names

end Settings

/-! ## One field after the other -/

namespace Json.Field

variable {α : Type} {given : String → Option Json} {fields : List (Field α)} {a : α}
  {name : String}

/-- A field takes its value, which may be the default that it has. -/
theorem fill_given {β : Type} {f : Field α} {reads : Json → β → Prop} {default x : β}
    (set : β → α → α) (h : Given (given f.name) reads default x)
    (hput : ∀ j, reads j x → f.put j a = some (set x a)) (hdefault : set default a = a) :
    fill given (f :: fields) a = fill given fields (set x a) := by
  rw [fill]
  cases hgiven : given f.name with
  | some j =>
    rw [hgiven] at h
    rw [putGiven_of_some hgiven, hput j h, Option.bind_some]
  | none =>
    rw [hgiven] at h
    obtain rfl : x = default := h
    rw [putGiven_of_none hgiven, Option.bind_some, hdefault]

theorem fill_bool (set : Bool → α → α) {default x : Bool}
    (h : Given (given name) IsBool default x) (hdefault : set default a = a) :
    fill given (.bool name set :: fields) a = fill given fields (set x a) :=
  fill_given (f := .bool name set) set h (fun j hj => by subst hj; rfl) hdefault

theorem put_natural (put : Nat → α → α) {j : Json} {n bound : Nat} (hj : j.IsNatural n)
    (hn : n ≤ bound) (hbound : bound < UInt64.size) :
    (Field.natural name bound put).put j a = some (put n a) := by
  obtain ⟨ds, rfl, rfl⟩ := hj
  simp only [Field.natural, Json.natural?, Literal.natural?_digits hn hbound, Option.map_some]

/-- A field of 32 bits. -/
theorem fill_word (set : UInt32 → α → α) {default x : UInt32}
    (h : Given (given name) IsWord default x) (hdefault : set default a = a) :
    fill given (.natural name (UInt32.size - 1) (fun n => set (UInt32.ofNat n)) :: fields) a =
      fill given fields (set x a) := by
  refine fill_given set h (fun j hj => ?_) hdefault
  rw [put_natural _ hj (Nat.le_sub_one_of_lt x.toNat_lt) (by decide), UInt32.ofNat_toNat]

theorem fill_single (set : Float32 → α → α) {default x : Float32}
    (h : Given (given name) IsSingle default x) (hdefault : set default a = a) :
    fill given (.single name set :: fields) a = fill given fields (set x a) := by
  refine fill_given set h (fun j hj => ?_) hdefault
  obtain ⟨l, rfl, hl⟩ := hj
  simp only [Field.single, Json.single?, hl, Option.map_some]

end Json.Field

open Json.Field

/-! ## The three records -/

namespace Thresholds

theorem names_nodup : names.Nodup := by
  decide

theorem fields_apart : fields.Pairwise Apart := by
  simp only [fields, List.pairwise_cons, List.forall_mem_cons]
  repeat' apply And.intro
  all_goals first | exact Apart.of_set rfl rfl fun _ _ _ => rfl | exact .nil | exact nofun

/-- Thresholds are read as the defaults with those that are given. -/
theorem record?_spelledBy {j : Json} {t : Thresholds} (h : SpelledBy j t) :
    record? fields {} j = some t := by
  rw [record?_eq_fill names_nodup fields_apart h.isRecord]
  refine (fill_single (fun x (t : Thresholds) => { t with inputDuty := x }) h.inputDuty
    rfl).trans ?_
  refine (fill_single (fun x (t : Thresholds) => { t with outputDuty := x }) h.outputDuty
    rfl).trans ?_
  refine (fill_single (fun x (t : Thresholds) => { t with inputTach := x }) h.inputTach
    rfl).trans ?_
  refine (fill_single (fun x (t : Thresholds) => { t with outputTach := x }) h.outputTach
    rfl).trans ?_
  refine (fill_single (fun x (t : Thresholds) => { t with temperature := x }) h.temperature
    rfl).trans ?_
  rfl

theorem Alike.record? {j j' : Json} (h : Alike j j') :
    record? fields {} j = record? fields {} j' :=
  record?_congr names_nodup fields_apart h (fun _ _ _ _ heq => heq ▸ rfl) {}

end Thresholds

namespace Intervals

theorem names_nodup : names.Nodup := by
  decide

theorem fields_apart : fields.Pairwise Apart := by
  simp only [fields, List.pairwise_cons, List.forall_mem_cons]
  repeat' apply And.intro
  all_goals first | exact Apart.of_set rfl rfl fun _ _ _ => rfl | exact .nil | exact nofun

/-- Intervals are read as the defaults with those that are given. -/
theorem record?_spelledBy {j : Json} {i : Intervals} (h : SpelledBy j i) :
    record? fields {} j = some i := by
  rw [record?_eq_fill names_nodup fields_apart h.isRecord]
  refine (fill_word (fun n (i : Intervals) => { i with networkPoll := n }) h.networkPoll
    rfl).trans ?_
  refine (fill_word (fun n (i : Intervals) => { i with statusLed := n }) h.statusLed rfl).trans ?_
  refine (fill_word (fun n (i : Intervals) => { i with display := n }) h.display rfl).trans ?_
  refine (fill_word (fun n (i : Intervals) => { i with inputDuty := n }) h.inputDuty rfl).trans ?_
  refine (fill_word (fun n (i : Intervals) => { i with temperature := n }) h.temperature
    rfl).trans ?_
  refine (fill_word (fun n (i : Intervals) => { i with inputTach := n }) h.inputTach rfl).trans ?_
  refine (fill_word (fun n (i : Intervals) => { i with outputUpdate := n }) h.outputUpdate
    rfl).trans ?_
  rfl

theorem Alike.record? {j j' : Json} (h : Alike j j') :
    record? fields {} j = record? fields {} j' :=
  record?_congr names_nodup fields_apart h (fun _ _ _ _ heq => heq ▸ rfl) {}

end Intervals

namespace Settings

theorem names_nodup : names.Nodup := by
  decide

theorem fields_apart : fields.Pairwise Apart := by
  simp only [fields, List.pairwise_cons, List.forall_mem_cons]
  repeat' apply And.intro
  all_goals first | exact Apart.of_set rfl rfl fun _ _ _ => rfl | exact .nil | exact nofun

/-- Settings are read as the defaults with those that are given. -/
theorem ofJson?_spelledBy {j : Json} {s : Settings} (h : SpelledBy j s) : ofJson? j = some s := by
  rw [ofJson?, record?_eq_fill names_nodup fields_apart h.isRecord]
  refine (fill_bool (fun b (s : Settings) => { s with localEcho := b }) h.localEcho rfl).trans ?_
  refine (fill_word (fun n (s : Settings) => { s with consoleWait := n }) h.consoleWait
    rfl).trans ?_
  refine (fill_given (fun mode (s : Settings) => { s with ledMode := mode }) h.ledMode
    (fun j hj => ?_) rfl).trans ?_
  · obtain ⟨n, hn, hj, hmode⟩ := hj
    rw [hmode]
    exact put_natural (fun n (s : Settings) => { s with ledMode := .ofCode n }) hj hn (by decide)
  refine (fill_given (fun t (s : Settings) => { s with thresholds := t }) h.thresholds
    (fun j hj => ?_) rfl).trans ?_
  · show (record? Thresholds.fields {} j).map _ = _
    rw [Thresholds.record?_spelledBy hj, Option.map_some]
  refine (fill_given (fun i (s : Settings) => { s with intervals := i }) h.intervals
    (fun j hj => ?_) rfl).trans ?_
  · show (record? Intervals.fields {} j).map _ = _
    rw [Intervals.record?_spelledBy hj, Option.map_some]
  refine (fill_word (fun n (s : Settings) => { s with tachWindow := n }) h.tachWindow rfl).trans ?_
  refine (fill_word (fun n (s : Settings) => { s with lockoutTimeout := n }) h.lockoutTimeout
    rfl).trans ?_
  refine (fill_word (fun n (s : Settings) => { s with watchdogTimeout := n }) h.watchdogTimeout
    rfl).trans ?_
  rfl

/-- The field of the thresholds and the field of the intervals. -/
theorem field_of_name {f : Json.Field Settings} (hf : f ∈ fields) :
    (f.name = "thresholds" → f.put = fun j s =>
      (record? Thresholds.fields {} j).map fun t => { s with thresholds := t }) ∧
    (f.name = "intervals" → f.put = fun j s =>
      (record? Intervals.fields {} j).map fun i => { s with intervals := i }) := by
  have hinj := List.inj_on_of_nodup_map names_nodup hf
  have hthresholds : fields[3] ∈ fields := List.getElem_mem _
  have hintervals : fields[4] ∈ fields := List.getElem_mem _
  exact ⟨fun hname => hinj hthresholds hname ▸ rfl, fun hname => hinj hintervals hname ▸ rfl⟩

/-- Values that say the same are put alike. -/
theorem SameValue.put {f : Json.Field Settings} (hf : f ∈ fields) {v v' : Json}
    (h : SameValue f.name v v') : f.put v = f.put v' := by
  obtain ⟨hthresholds, hintervals⟩ := field_of_name hf
  rcases h with rfl | ⟨hname, halike⟩ | ⟨hname, halike⟩
  · rfl
  · simp only [hthresholds hname, halike.record?]
  · simp only [hintervals hname, halike.record?]

/-- Documents that give the same settings are read alike. -/
theorem Alike.ofJson? {j j' : Json} (h : Alike j j') : ofJson? j = ofJson? j' :=
  record?_congr names_nodup fields_apart h (fun _ hf _ _ hsame => hsame.put hf) {}

/-- A document that names a field twice is no record of settings. -/
theorem NamesTwice.ofJson? {j : Json} (h : NamesTwice j) : ofJson? j = none := by
  rw [Option.eq_none_iff_forall_ne_some]
  intro s hs
  obtain ⟨hrecord, hfill⟩ := (record?_eq_some_iff names_nodup fields_apart).mp hs
  have hput := put_of_fill hfill
  rcases h with h | ⟨v, hv, h⟩ | ⟨v, hv, h⟩
  · exact h.not_isRecord hrecord
  · obtain ⟨s, s', hs⟩ := hput fields[3] (List.getElem_mem _) v hv
    obtain ⟨t, ht, -⟩ := Option.map_eq_some_iff.mp hs
    exact h.not_isRecord
      ((record?_eq_some_iff Thresholds.names_nodup Thresholds.fields_apart).mp ht).1
  · obtain ⟨s, s', hs⟩ := hput fields[4] (List.getElem_mem _) v hv
    obtain ⟨i, hi, -⟩ := Option.map_eq_some_iff.mp hs
    exact h.not_isRecord
      ((record?_eq_some_iff Intervals.names_nodup Intervals.fields_apart).mp hi).1

/-! ## The texts -/

section

variable {text text' : String} {j j' : Json} {s : Settings} (h : Spells (.value j) text.toList)

include h

theorem bind_ofJson? : (Json.read? text).bind ofJson? = ofJson? j := by
  rw [Json.read?_spells h, Option.bind_some]

/-- The check decides about settings that are read. -/
theorem parse_spelledBy (hs : SpelledBy j s) : parse text =
    match s.defect? with
    | none => .ok s
    | some d => .error (.refused d.message) := by
  rw [parse, bind_ofJson? h, ofJson?_spelledBy hs]
  simp only [check]
  cases s.defect? <;> rfl

theorem parse_alike (h' : Spells (.value j') text'.toList) (halike : Alike j j') :
    parse text = parse text' := by
  rw [parse, parse, bind_ofJson? h, bind_ofJson? h', halike.ofJson?]

theorem parse_namesTwice (htwice : NamesTwice j) : parse text = .error .corrupted := by
  rw [parse, bind_ofJson? h, htwice.ofJson?]

end

/-- What the texts of a document are read as.

* A document that gives some of the settings is read as the defaults with these in their place,
  unless the check refuses the result.
* Documents that give the same settings are read alike.
* A document that names a field twice is corrupted.
* On each level, documents give the same that differ in the order of the known members, in the
  members of other names, or in being written as the array of the first values. -/
theorem parse_partial :
    (∀ (text : String) (j : Json) (s : Settings), Spells (.value j) text.toList → SpelledBy j s →
      parse text =
        match s.defect? with
        | none => .ok s
        | some d => .error (.refused d.message)) ∧
    (∀ (text text' : String) (j j' : Json), Spells (.value j) text.toList →
      Spells (.value j') text'.toList → Alike j j' → parse text = parse text') ∧
    (∀ (text : String) (j : Json), Spells (.value j) text.toList → NamesTwice j →
      parse text = .error .corrupted) ∧
    (∀ j j' : Json,
      (j.Rewritten names j' → Alike j j') ∧
      (j.Rewritten Thresholds.names j' → Thresholds.Alike j j') ∧
      (j.Rewritten Intervals.names j' → Intervals.Alike j j')) := by
  refine ⟨fun _ _ _ h hs => parse_spelledBy h hs, fun _ _ _ _ h h' => parse_alike h h',
    fun _ _ h => parse_namesTwice h, fun j j' => ⟨fun h => ?_, fun h => ?_, fun h => ?_⟩⟩
  · exact h.sameRecord names_nodup fun _ _ => Or.inl rfl
  · exact h.sameRecord Thresholds.names_nodup fun _ _ => rfl
  · exact h.sameRecord Intervals.names_nodup fun _ _ => rfl

/-- Three of the settings in no order, with a value of another name between them and the first of
the thresholds without its name. -/
def mixed : Json :=
  .ofMembers
    [ ("watchdog_timeout_ms", .ofNat 1000),
      ("colour", .array [.null]),
      ("thresholds", .array [.ofNat 1]),
      ("led_mode", .ofNat 1) ]

/-- The same settings in order. -/
def ordered : Json :=
  .ofMembers
    [ ("led_mode", .ofNat 1),
      ("thresholds", .ofMembers [("input_duty", .ofNat 1)]),
      ("watchdog_timeout_ms", .ofNat 1000) ]

/-- One of the settings named twice. -/
def repeated : Json :=
  .ofMembers [("led_mode", .ofNat 1), ("colour", .null), ("led_mode", .ofNat 1)]

/-- What the first two of the documents say. -/
def few : Settings where
  ledMode := .alwaysOn
  thresholds := { inputDuty := 1 }
  watchdogTimeout := 1000

theorem parse_partial_mixed :
    parse mixed.compact = .ok few ∧ parse mixed.compact = parse ordered.compact ∧
      parse repeated.compact = .error .corrupted := by
  have hmixed : Spells (.value mixed) mixed.compact.toList :=
    Json.spells_compact (Json.wellFormed_ofMembers (by
      simp [Json.wellFormed_ofNat, Json.WellFormed, Json.ItemsWellFormed]))
  have hordered : Spells (.value ordered) ordered.compact.toList :=
    Json.spells_compact (Json.wellFormed_ofMembers (by
      simp [Json.wellFormed_ofNat, Json.wellFormed_ofMembers]))
  have hrepeated : Spells (.value repeated) repeated.compact.toList :=
    Json.spells_compact (Json.wellFormed_ofMembers (by
      simp [Json.wellFormed_ofNat, Json.WellFormed]))
  have hfirst : Thresholds.SpelledBy (.array [.ofNat 1]) { inputDuty := 1 } :=
    ⟨(by decide : 1 ≤ Thresholds.names.length), ⟨_, rfl, by decide +kernel⟩, rfl, rfl, rfl, rfl⟩
  obtain ⟨hok, halike, htwice, hrewritten⟩ := parse_partial
  refine ⟨?_, ?_, ?_⟩
  · have hdefect : few.defect? = none := by decide
    have hparse := hok mixed.compact mixed few hmixed ⟨Json.isRecord_ofMembers _ (by decide),
      rfl, rfl, ⟨1, by decide, ⟨_, rfl, Json.Digit.toNat_ofNat 1⟩, rfl⟩, hfirst, rfl, rfl, rfl,
      ⟨_, rfl, Json.Digit.toNat_ofNat 1000⟩⟩
    rwa [hdefect] at hparse
  · refine halike mixed.compact ordered.compact mixed ordered hmixed hordered ?_
    refine ⟨Json.isRecord_ofMembers _ (by decide), Json.isRecord_ofMembers _ (by decide), ?_⟩
    have hinner : Thresholds.Alike (.array [.ofNat 1]) (.ofMembers [("input_duty", .ofNat 1)]) :=
      (hrewritten _ _).2.1 (.array (by decide : [Json.ofNat 1].length ≤ _))
    simp only [names, fields, List.map_cons, List.map_nil, List.forall_mem_cons]
    exact ⟨.none, .none, .some (Or.inl rfl), .some (Or.inr (Or.inl ⟨rfl, hinner⟩)), .none, .none,
      .none, .some (Or.inl rfl), nofun⟩
  · refine htwice repeated.compact repeated hrepeated (Or.inl ?_)
    exact ⟨"led_mode", by decide, by decide⟩

end Settings

end FanBoard
