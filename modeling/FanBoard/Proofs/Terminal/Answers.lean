import FanBoard.Proofs.Lockout.Endings
import FanBoard.Proofs.Terminal.Spelling
import FanBoard.Proofs.Text.Utf8
import FanBoard.Terminal.LineEditor

/-!
# The answers of commands

A command answers with whole lines, and on the terminal each of them stands with the end of a line behind
it.  A line that is no command is answered `ERR`.

* `Visible` is a text of spaces and visible characters, so no end of a line is in it, and what is sent
  tells the lines of an answer (`reply_injective`).
* `Command.answer_answers`: a command answers with at least one line, and not with `ERR` alone.
* `Command.answer_leaves`: a command touches only the clock, the lockout and the log, and no request for
  the lockout is left behind.
* `Commands.process_serves` sums up one line, and `Commands.serveAll_servedAll` lines in order.
-/

namespace FanBoard

/-! ## Visible text -/

/-- A text of spaces and visible characters of ASCII. -/
def Visible (s : String) : Prop :=
  ∀ c ∈ s.toList, 0x20 ≤ c.toNat ∧ c.toNat ≤ 0x7E

namespace Visible

instance (s : String) : Decidable (Visible s) :=
  List.decidableBAll _ s.toList

@[simp] theorem append_iff {s t : String} : Visible (s ++ t) ↔ Visible s ∧ Visible t := by
  simp only [Visible, String.toList_append, List.forall_mem_append]

theorem ofList_iff {cs : List Char} :
    Visible (String.ofList cs) ↔ ∀ c ∈ cs, 0x20 ≤ c.toNat ∧ c.toNat ≤ 0x7E := by
  rw [Visible, String.toList_ofList]

theorem digit {c : Char} (h : c.isDigit = true) : 0x20 ≤ c.toNat ∧ c.toNat ≤ 0x7E := by
  have hdigit : 48 ≤ c.toNat ∧ c.toNat ≤ 57 := by
    simpa [Char.isDigit, UInt32.le_iff_toNat_le] using h
  omega

@[simp] theorem toString_nat (n : Nat) : Visible (toString n) := by
  rw [Nat.toString_eq_ofList_toDigits]
  exact ofList_iff.mpr fun c hc => digit (Nat.isDigit_of_mem_toDigits (by decide) (by decide) hc)

end Visible

namespace FixedPlaces

/-- The digits of a number with a point among them. -/
theorem visible_places (n units : Nat) : Visible (places n units) := by
  have hdigits : ∀ c ∈ List.replicate (n + 1 - (Nat.toDigits 10 units).length) '0' ++
      Nat.toDigits 10 units, c.isDigit = true := by
    intro c hc
    rcases List.mem_append.mp hc with hzero | hdigit
    · rw [List.eq_of_mem_replicate hzero]
      rfl
    · exact Nat.isDigit_of_mem_toDigits (by decide) (by decide) hdigit
  rw [places]
  rw [Visible.ofList_iff]
  intro c hc
  split_ifs at hc
  · exact Visible.digit (hdigits c (List.mem_of_mem_take hc))
  · rw [List.mem_append, List.mem_cons] at hc
    rcases hc with hwhole | rfl | hrest
    · exact Visible.digit (hdigits c (List.mem_of_mem_take hwhole))
    · decide
    · exact Visible.digit (hdigits c (List.mem_of_mem_drop hrest))

theorem visible_text (n : Nat) (x : Float32) : Visible (text n x) := by
  have hsign : ∀ s, Visible (signText s) := by
    intro s
    cases s <;> decide
  rw [text]
  split
  · decide
  · exact Visible.append_iff.mpr ⟨hsign _, by decide⟩
  · exact Visible.append_iff.mpr ⟨hsign _, visible_places _ _⟩
  · exact Visible.append_iff.mpr ⟨hsign _, visible_places _ _⟩

end FixedPlaces

theorem Report.visible_line (r : Report) : Visible r.line := by
  unfold line
  refine Visible.append_iff.mpr ⟨?_, ?_⟩
  · simp only [Visible.append_iff, Visible.toString_nat, and_true]
    decide
  · -- The free heap stands at the end, on boards that tell it.
    split
    · exact Visible.append_iff.mpr ⟨by decide, Visible.toString_nat _⟩
    · decide

theorem Report.line_ne_error (r : Report) : r.line ≠ "ERR" := by
  intro h
  unfold line at h
  have hfirst := congrArg (fun s => s.toList.head?) h
  simp [String.toList_append] at hfirst

theorem visible_channelLine {name : String} (hname : Visible name) (number : Nat)
    (duty tach : Float32) : Visible (channelLine name number duty tach) := by
  unfold channelLine
  simp only [Visible.append_iff, Visible.toString_nat, FixedPlaces.visible_text, hname, true_and,
    and_true]
  decide

theorem visible_sensorLine (number : Nat) (temperature : Float32) :
    Visible (sensorLine number temperature) := by
  unfold sensorLine
  simp only [Visible.append_iff, Visible.toString_nat, FixedPlaces.visible_text, and_true]
  decide

theorem Signals.visible_lines (s : Signals) : ∀ l ∈ s.lines, Visible l := by
  intro l hl
  simp only [lines, List.mem_append, List.mem_map] at hl
  rcases hl with (⟨i, -, rfl⟩ | ⟨i, -, rfl⟩) | ⟨i, -, rfl⟩
  · exact visible_channelLine (by decide) _ _ _
  · exact visible_channelLine (by decide) _ _ _
  · exact visible_sensorLine _ _

/-! ## Bytes -/

/-- A visible text has one visible byte for every character. -/
theorem Visible.encode {s : String} (h : Visible s) :
    ∀ b ∈ Utf8.encode s, 0x20 ≤ b.toNat ∧ b.toNat ≤ 0x7E := by
  intro b hb
  rw [Utf8.encode_eq_flatMap, List.mem_flatMap] at hb
  obtain ⟨c, hc, hb⟩ := hb
  have hvisible := h c hc
  have hsize : c.utf8Size = 1 := by
    rw [Char.utf8Size_eq_one_iff, UInt32.le_iff_toNat_le]
    exact Nat.le_trans hvisible.2 (by decide)
  rw [String.utf8EncodeChar_eq_singleton hsize, List.mem_singleton] at hb
  have hbyte : b.toNat = c.toNat := by
    rw [hb, UInt32.toNat_toUInt8]
    exact Nat.mod_eq_of_lt (Nat.lt_of_le_of_lt hvisible.2 (by decide))
  rw [hbyte]
  exact hvisible

theorem Visible.no_return {s : String} (h : Visible s) : 0x0D ∉ Utf8.encode s :=
  fun hmem => absurd (h.encode _ hmem).1 (by decide)

/-! ## What is sent -/

/-- The bytes that the terminal is sent for an answer. -/
def reply (answer : List String) : List UInt8 :=
  answer.flatMap fun line => Utf8.encode line ++ LineEditor.lineEnd

/-- The answer to a line that is no command. -/
def errorReply : List UInt8 :=
  [0x45, 0x52, 0x52, 0x0D, 0x0A]

theorem reply_error : reply ["ERR"] = errorReply := by
  rw [reply, List.flatMap_singleton, Utf8.encode_eq_flatMap]
  decide

theorem reply_cons (line : String) (answer : List String) :
    reply (line :: answer) = Utf8.encode line ++ 0x0D :: 0x0A :: reply answer := by
  simp [reply, LineEditor.lineEnd]

/-- The first carriage return tells what stands in front of it. -/
theorem front_eq_of_return {front front' back back' : List UInt8} (h : 0x0D ∉ front)
    (h' : 0x0D ∉ front') (heq : front ++ 0x0D :: back = front' ++ 0x0D :: back') : front = front' := by
  have hpos : ∀ {l : List UInt8}, 0x0D ∉ l → ∀ b ∈ l, (b != 0x0D) = true :=
    fun hl b hb => bne_iff_ne.mpr fun hreturn => hl (hreturn ▸ hb)
  have htake := congrArg (List.takeWhile (· != 0x0D)) heq
  rw [List.takeWhile_append_of_pos (hpos h), List.takeWhile_append_of_pos (hpos h')] at htake
  simpa using htake

/-- Where no line has a carriage return, what is sent tells the lines. -/
theorem reply_injective {answer answer' : List String} (h : ∀ line ∈ answer, Visible line)
    (h' : ∀ line ∈ answer', Visible line) (heq : reply answer = reply answer') : answer = answer' := by
  induction answer generalizing answer' with
  | nil =>
    cases answer' with
    | nil => rfl
    | cons line' answer' =>
      rw [reply_cons] at heq
      simp [reply] at heq
  | cons line answer ih =>
    cases answer' with
    | nil =>
      rw [reply_cons] at heq
      simp [reply] at heq
    | cons line' answer' =>
      rw [List.forall_mem_cons] at h h'
      rw [reply_cons, reply_cons] at heq
      have hline := front_eq_of_return h.1.no_return h'.1.no_return heq
      rw [hline, List.append_cancel_left_eq] at heq
      injection heq with _ heq
      injection heq with _ hrest
      rw [Utf8.encode_injective hline, ih h.2 h'.2 hrest]

/-! ## The answer of a command -/

/-- An answer to a command: it has a line, all its lines are visible, and it is not `ERR` alone. -/
structure Answers (answer : List String) : Prop where
  nonempty : answer ≠ []
  visible : ∀ line ∈ answer, Visible line
  ne_error : answer ≠ ["ERR"]

theorem Answers.of_line {line : String} (hvisible : Visible line) (hne : line ≠ "ERR") :
    Answers [line] where
  nonempty := List.cons_ne_nil _ _
  visible := by
    intro line' hline'
    rw [List.mem_singleton.mp hline']
    exact hvisible
  ne_error := fun h => hne (List.singleton_inj.mp h)

/-- The parts that no command changes. -/
structure Context.Leaves (c c' : Context) : Prop where
  signals : c'.signals = c.signals
  settings : c'.settings = c.settings
  metrics : c'.metrics = c.metrics
  slots : c'.shared.slots = c.shared.slots
  requested : c'.shared.lockout.requested = c.shared.lockout.requested

theorem Context.Leaves.refl (c : Context) : c.Leaves c :=
  ⟨rfl, rfl, rfl, rfl, rfl⟩

theorem Context.Leaves.trans {c c' c'' : Context} (h : c.Leaves c') (h' : c'.Leaves c'') : c.Leaves c'' where
  signals := h'.signals.trans h.signals
  settings := h'.settings.trans h.settings
  metrics := h'.metrics.trans h.metrics
  slots := h'.slots.trans h.slots
  requested := h'.requested.trans h.requested

theorem Journal.add_limit (j : Journal) (l : Log.Line) : (j.add l).limit = j.limit := by
  rw [add]
  split <;> rfl

theorem Journal.addAll_limit (j : Journal) (ls : List Log.Line) : (j.addAll ls).limit = j.limit :=
  List.foldlRecOn (motive := fun j' : Journal => j'.limit = j.limit) ls add rfl
    fun j' hj' l _ => (j'.add_limit l).trans hj'

namespace Command

variable {peer : Nat → Lockout.Words → Lockout.Words} {c : Context}

/-- A trial of the lockout ends, and it leaves no request behind. -/
theorem answerLockout_cases (hpeer : Lockout.ByWorker peer)
    (hclock : Lockout.Reaches c.shared.clock (Lockout.Caller.budget c.settings.lockoutTimeout)) :
    ((answerLockout peer c).1 = ["OK"] ∨
        ∃ f : LockoutFault, (answerLockout peer c).1 = ["ERR " ++ f.message]) ∧
      c.Leaves (answerLockout peer c).2 := by
  have hends := Lockout.acquire_ends hpeer hclock c.shared.lockout
  unfold answerLockout Shared.acquire
  generalize Lockout.acquire peer c.settings.lockoutTimeout c.shared.lockout c.shared.clock = a
    at hends ⊢
  obtain ⟨verdict, words, clock⟩ := a
  rcases hends with ⟨hheld, hfree⟩ | ⟨f, hrefused, hrequested⟩
  · cases hheld
    exact ⟨Or.inl rfl, rfl, rfl, rfl, rfl, hfree.symm⟩
  · cases hrefused
    exact ⟨Or.inr ⟨f, rfl⟩, rfl, rfl, rfl, rfl, hrequested⟩

/-- No command touches more than the lockout, the clock and the log, and no request is left behind. -/
theorem answer_leaves (hpeer : Lockout.ByWorker peer)
    (hclock : Lockout.Reaches c.shared.clock (Lockout.Caller.budget c.settings.lockoutTimeout))
    (command : Command) : c.Leaves (command.answer peer c).2 := by
  cases command with
  | tryLockout => exact (answerLockout_cases hpeer hclock).2
  | setLogLimit level => exact ⟨rfl, rfl, rfl, rfl, rfl⟩
  | identify | version | status | measure | logLimit => exact Context.Leaves.refl c

theorem answer_answers (hpeer : Lockout.ByWorker peer)
    (hclock : Lockout.Reaches c.shared.clock (Lockout.Caller.budget c.settings.lockoutTimeout))
    (command : Command) : Answers (command.answer peer c).1 := by
  cases command with
  | identify => exact Answers.of_line (by decide) (by decide)
  | version => exact Answers.of_line (by decide) (by decide)
  | status => exact Answers.of_line (Report.visible_line _) (Report.line_ne_error _)
  | measure =>
    have hlength : c.signals.lines.length = headerCount + fanCount + sensorCount := by
      simp [Signals.lines, Nat.add_assoc]
    exact
      { nonempty := by
          intro h
          have hnone : c.signals.lines = [] := h
          rw [hnone] at hlength
          exact absurd hlength (by decide)
        visible := c.signals.visible_lines
        ne_error := by
          intro h
          have hone : c.signals.lines = ["ERR"] := h
          rw [hone] at hlength
          exact absurd hlength (by decide) }
  | logLimit =>
    have hline : (answer peer c .logLimit).1 = [toString (logNumber c.shared.journal.limit)] := rfl
    rw [hline]
    refine Answers.of_line (Visible.toString_nat _) ?_
    rcases c.shared.journal.limit with _ | _ | _ | _ | _ | _ <;> decide
  | setLogLimit level => exact Answers.of_line (by decide) (by decide)
  | tryLockout =>
    rcases (answerLockout_cases hpeer hclock).1 with hheld | ⟨f, hrefused⟩
    · rw [answer, hheld]
      exact Answers.of_line (by decide) (by decide)
    · rw [answer, hrefused]
      cases f <;> exact Answers.of_line (by decide) (by decide)

/-- No command sets the clock. -/
theorem answer_reading (peer : Nat → Lockout.Words → Lockout.Words) (c : Context) (command : Command) :
    (command.answer peer c).2.shared.clock.reading = c.shared.clock.reading := by
  cases command with
  | tryLockout =>
    have hreading := Lockout.acquire_reading peer c.settings.lockoutTimeout c.shared.lockout
      c.shared.clock
    simp only [answer, answerLockout, Shared.acquire]
    split <;> exact hreading
  | identify | version | status | measure | logLimit | setLogLimit level => rfl

/-- The limit of the log that a command asks for. -/
def limit? : Command → Option Log.Level
  | .setLogLimit level => some level
  | _ => none

/-- Only a command that asks for a limit of the log changes the limit. -/
theorem answer_limit (peer : Nat → Lockout.Words → Lockout.Words) (c : Context) (command : Command) :
    (command.answer peer c).2.shared.journal.limit = command.limit?.or c.shared.journal.limit := by
  cases command with
  | tryLockout =>
    simp only [answer, answerLockout, Shared.acquire, limit?, Option.none_or]
    split <;> exact Journal.addAll_limit _ _
  | setLogLimit level => exact Journal.add_limit _ _
  | identify | version | status | measure | logLimit => rfl

/-- The limit of the log that a line asks for: its word is `SYS:DEBUG`, and its argument is the number of
the limit. -/
def askedLimit? (line : String) : Option Log.Level :=
  if (words line.toList).1 = "SYS:DEBUG" then
    (smallNumber? (words line.toList).2).bind logLevel?
  else none

theorem askedLimit?_eq (line : String) : askedLimit? line = (parse? line).bind limit? := by
  rw [parse?_eq, askedLimit?]
  generalize words line.toList = parts
  obtain ⟨word, argument⟩ := parts
  unfold ofWords?
  by_cases hdebug : word = "SYS:DEBUG"
  · rw [if_pos hdebug, if_pos hdebug]
    cases (smallNumber? argument).bind logLevel? <;> rfl
  · rw [if_neg hdebug, if_neg hdebug]
    split_ifs <;> rfl

end Command

/-! ## One line -/

namespace Commands

/-- What a line does to the counters and the context, and what it is answered. -/
structure Serves (counters : Commands) (c : Context) (line : String)
    (result : Commands × List String × Context) : Prop where
  leaves : c.Leaves result.2.2
  /-- One counter goes up by one.  It is the one of the rejected lines exactly if the terminal is sent
  `ERR` alone. -/
  counted :
    result.1 = { counters with handled := counters.handled + 1 } ∧ reply result.2.1 ≠ errorReply ∨
      result.1 = { counters with rejected := counters.rejected + 1 } ∧ reply result.2.1 = errorReply
  nonempty : result.2.1 ≠ []
  visible : ∀ line ∈ result.2.1, Visible line
  /-- The limit of the log is the one that the line asks for. -/
  limit : result.2.2.shared.journal.limit = (Command.askedLimit? line).or c.shared.journal.limit
  /-- A line that asks for one is no rejected line. -/
  accepted : (Command.askedLimit? line).isSome = true →
    result.1 = { counters with handled := counters.handled + 1 }

/-- Where the clock gets past the timeout of the lockout, a line is answered once and disturbs nothing. -/
theorem process_serves {peer : Nat → Lockout.Words → Lockout.Words} {c : Context}
    (hpeer : Lockout.ByWorker peer)
    (hclock : Lockout.Reaches c.shared.clock (Lockout.Caller.budget c.settings.lockoutTimeout))
    (counters : Commands) (line : String) : Serves counters c line (process peer counters c line) := by
  have hasked := Command.askedLimit?_eq line
  have hvisible : ∀ line ∈ ["ERR"], Visible line := by decide
  unfold process
  cases hparse : Command.parse? line with
  | none =>
    rw [hparse, Option.bind_none] at hasked
    exact
      { leaves := Context.Leaves.refl c
        counted := Or.inr ⟨rfl, reply_error⟩
        nonempty := List.cons_ne_nil _ _
        visible := hvisible
        limit := by rw [hasked, Option.none_or]
        accepted := by
          rw [hasked]
          exact nofun }
  | some command =>
    rw [hparse, Option.bind_some] at hasked
    have hleaves := Command.answer_leaves hpeer hclock command
    have hanswer := Command.answer_answers hpeer hclock command
    have hlimit := Command.answer_limit peer c command
    dsimp only
    generalize command.answer peer c = result at hleaves hanswer hlimit ⊢
    obtain ⟨answer, c'⟩ := result
    exact
      { leaves := hleaves
        counted := by
          refine Or.inl ⟨rfl, fun herror => hanswer.ne_error ?_⟩
          rw [← reply_error] at herror
          exact reply_injective hanswer.visible hvisible herror
        nonempty := hanswer.nonempty
        visible := hanswer.visible
        limit := by rw [hasked, hlimit]
        accepted := fun _ => rfl }

/-! ## Lines in order -/

/-- A line, and what the other core does while it is served. -/
structure Request where
  line : String
  peer : Nat → Lockout.Words → Lockout.Words

/-- Serves a line. -/
def serve (s : Commands × Context) (r : Request) : Commands × Context :=
  let result := s.1.process r.peer s.2 r.line
  (result.1, result.2.2)

/-- Serves lines in order. -/
def serveAll (s : Commands × Context) (requests : List Request) : Commands × Context :=
  requests.foldl serve s

theorem serveAll_cons (s : Commands × Context) (r : Request) (requests : List Request) :
    serveAll s (r :: requests) = serveAll (serve s r) requests := by
  rw [serveAll, List.foldl_cons, serveAll]

/-- What lines do one after the other. -/
structure ServedAll (s s' : Commands × Context) (requests : List Request) : Prop where
  leaves : s.2.Leaves s'.2
  handled : s'.1.handled =
    s.1.handled + UInt32.ofNat (requests.countP fun r => (Command.parse? r.line).isSome)
  rejected : s'.1.rejected =
    s.1.rejected + UInt32.ofNat (requests.countP fun r => (Command.parse? r.line).isNone)
  /-- The limit of the log is the last one that was asked for. -/
  limit : s'.2.shared.journal.limit =
    (requests.filterMap fun r => Command.askedLimit? r.line).getLast?.or s.2.shared.journal.limit

theorem serve_handled (s : Commands × Context) (r : Request) :
    (serve s r).1.handled = s.1.handled + if (Command.parse? r.line).isSome then 1 else 0 := by
  unfold serve process
  cases Command.parse? r.line with
  | none => exact (UInt32.add_zero _).symm
  | some command => rfl

theorem serve_rejected (s : Commands × Context) (r : Request) :
    (serve s r).1.rejected = s.1.rejected + if (Command.parse? r.line).isNone then 1 else 0 := by
  unfold serve process
  cases Command.parse? r.line with
  | none => rfl
  | some command => exact (UInt32.add_zero _).symm

/-- One more is counted before the others. -/
theorem add_count (n : UInt32) (one : Bool) (count : Nat) :
    n + (if one then 1 else 0) + UInt32.ofNat count =
      n + UInt32.ofNat (count + if one then 1 else 0) := by
  cases one with
  | false => simp
  | true =>
    rw [if_pos rfl, if_pos rfl, UInt32.ofNat_add, UInt32.add_assoc, UInt32.add_comm 1]
    rfl

theorem serve_reading (s : Commands × Context) (r : Request) :
    (serve s r).2.shared.clock.reading = s.2.shared.clock.reading := by
  unfold serve process
  cases Command.parse? r.line with
  | none => rfl
  | some command => exact Command.answer_reading r.peer s.2 command

/-- A clock that moves on with every read gets past every timeout, however many lines were served. -/
theorem serveAll_reaches {s : Commands × Context}
    (hclock : ∀ n, s.2.shared.clock.reading n < s.2.shared.clock.reading (n + 1))
    (requests : List Request) (timeout : UInt32) :
    Lockout.Reaches (serveAll s requests).2.shared.clock (Lockout.Caller.budget timeout) := by
  have hreading : (serveAll s requests).2.shared.clock.reading = s.2.shared.clock.reading := by
    induction requests generalizing s with
    | nil => rfl
    | cons r requests ih =>
      have hone := serve_reading s r
      rw [serveAll_cons, ih (by rwa [hone]), hone]
  apply Lockout.reaches_of_lt
  rwa [hreading]

/-- Where the clock gets past the timeout of the lockout before every line, lines are served one after the
other. -/
theorem serveAll_servedAll {s : Commands × Context} {requests : List Request}
    (hpeer : ∀ r ∈ requests, Lockout.ByWorker r.peer)
    (hclock : ∀ before, before <+: requests → Lockout.Reaches (serveAll s before).2.shared.clock
      (Lockout.Caller.budget s.2.settings.lockoutTimeout)) :
    ServedAll s (serveAll s requests) requests := by
  induction requests generalizing s with
  | nil =>
    exact
      { leaves := Context.Leaves.refl s.2
        handled := (UInt32.add_zero _).symm
        rejected := (UInt32.add_zero _).symm
        limit := rfl }
  | cons r requests ih =>
    rw [List.forall_mem_cons] at hpeer
    have hfirst : Lockout.Reaches s.2.shared.clock
        (Lockout.Caller.budget s.2.settings.lockoutTimeout) := hclock [] List.nil_prefix
    have hone := process_serves hpeer.1 hfirst s.1 r.line
    have hfirstLeaves : s.2.Leaves (serve s r).2 ∧ (serve s r).2.shared.journal.limit =
        (Command.askedLimit? r.line).or s.2.shared.journal.limit := by
      generalize hresult : s.1.process r.peer s.2 r.line = result at hone
      rw [serve, hresult]
      exact ⟨hone.leaves, hone.limit⟩
    obtain ⟨hleaves, hlimit⟩ := hfirstLeaves
    have hafter : ∀ before, before <+: requests →
        Lockout.Reaches (serveAll (serve s r) before).2.shared.clock
          (Lockout.Caller.budget (serve s r).2.settings.lockoutTimeout) := by
      intro before hbefore
      rw [← serveAll_cons, hleaves.settings]
      exact hclock (r :: before) ((List.prefix_cons_inj r).mpr hbefore)
    have hrest := ih hpeer.2 hafter
    rw [serveAll_cons]
    constructor
    · exact hleaves.trans hrest.leaves
    · rw [hrest.handled, serve_handled, List.countP_cons, add_count]
    · rw [hrest.rejected, serve_rejected, List.countP_cons, add_count]
    · rw [hrest.limit, hlimit, List.filterMap_cons]
      cases Command.askedLimit? r.line with
      | none => rw [Option.none_or]
      | some level =>
        simp only [List.getLast?_cons]
        cases (requests.filterMap fun r => Command.askedLimit? r.line).getLast? <;> rfl

end Commands

end FanBoard
