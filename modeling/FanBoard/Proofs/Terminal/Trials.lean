import FanBoard.Proofs.Terminal.Watched
import FanBoard.Proofs.Text.Utf8
import FanBoard.Terminal.Commands
import Mathlib.Tactic.SplitIfs

/-!
# Trials of the lockout among the lines of a pump

A line that asks for a trial of the lockout has at least eleven bytes, and a byte that ends it.

* `handedOut_eq`: the lines of a pump are lines of the reference.
* `trialsIn_handedOut_le`: one pump hands out at most `mostTrials` trials.
* `trialsIn_flood`: a queue full of trials hands out one for every twelve bytes.
-/

namespace FanBoard

/-! ## The length of a trial -/

theorem Blank.length_trimFront (cs : List Char) : (trimFront cs).length ≤ cs.length :=
  (List.dropWhile_sublist _).length_le

theorem Blank.length_trim (cs : List Char) : (trim cs).length ≤ cs.length := by
  rw [trim, List.length_reverse]
  refine Nat.le_trans (length_trimFront _) ?_
  rw [List.length_reverse]
  exact length_trimFront cs

/-- Only one word asks for a trial. -/
theorem Command.ofWords?_tryLockout {word : String} {argument : List Char}
    (h : ofWords? word argument = some .tryLockout) : word = "SYS:LOCKOUT" := by
  simp only [ofWords?] at h
  split_ifs at h with hdebug hargument hidn hversion hstatus hmeasure hlimit htry
  · rw [Option.map_eq_some_iff] at h
    obtain ⟨level, _, hlevel⟩ := h
    cases hlevel
  · cases h
  · cases h
  · cases h
  · cases h
  · cases h
  · exact htry

/-- Whether a line asks for a trial of the lockout. -/
def isTrial (raw : List UInt8) : Bool :=
  Command.parse? (Utf8.decodeLossy raw) = some .tryLockout

theorem length_of_isTrial {raw : List UInt8} (h : isTrial raw = true) : 11 ≤ raw.length := by
  rw [isTrial, decide_eq_true_iff] at h
  have hword := congrArg (fun s => s.toList.length) (Command.ofWords?_tryLockout h)
  have htrim := Blank.length_trim (Utf8.decodeLossy raw).toList
  have hsplit : (List.takeWhile (fun c => !Blank.isBlank c)
      (Blank.trim (Utf8.decodeLossy raw).toList)).length ≤
        (Blank.trim (Utf8.decodeLossy raw).toList).length :=
    (List.takeWhile_sublist _).length_le
  have hdecode := Utf8.length_decodeLossy raw
  simp only [String.toList_ofList, List.length_map] at hword
  have heleven : "SYS:LOCKOUT".toList.length = 11 := by decide
  omega

/-- The number of trials among lines. -/
def trialsIn (lines : List (List UInt8)) : Nat :=
  lines.countP isTrial

theorem trialsIn_append (front back : List (List UInt8)) :
    trialsIn (front ++ back) = trialsIn front + trialsIn back :=
  List.countP_append

/-! ## How many trials fit into a pump -/

/-- The greatest number of trials in one pump: one for every twelve bytes, and one that was typed
before. -/
def mostTrials : Nat :=
  pumpLimit / 12 + 1

namespace LineEditor

/-- How many of the twelve bytes of a trial the editor may hold. -/
def held (e : LineEditor) : Nat :=
  if e.full then 12 else min e.pending.size 11

/-- Handing a full line out costs what is held. -/
theorem flush_cost (e : LineEditor) :
    12 * trialsIn (Event.dispatched e.flush.2) + e.flush.1.held ≤ e.held := by
  cases hfull : e.full with
  | true =>
    have hone : trialsIn [e.pending.toList] ≤ 1 := List.countP_le_length
    simp only [flush, hfull, if_true, dispatch, Event.dispatched_append, dispatched_echoed,
      Event.dispatched, List.nil_append, held, Bool.false_eq_true, if_false, List.size_toArray,
      List.length_nil]
    omega
  | false => simp [flush, hfull, Event.dispatched, trialsIn]

/-- A byte pays for one twelfth of a trial. -/
theorem accept_cost (e : LineEditor) (hfull : e.full = false) (b : UInt8) :
    12 * trialsIn (Event.dispatched (e.accept b).2) + (e.accept b).1.held ≤ e.held + 1 := by
  have hheld : e.held = min e.pending.size 11 := by simp [held, hfull]
  rw [hheld]
  simp only [accept]
  split_ifs with hnoise hrub hend hempty hfill
  · simp [Event.dispatched, trialsIn, held, hfull]
  · simp only [dispatched_echoed, trialsIn, List.countP_nil, held, hfull, Array.size_pop,
      Bool.false_eq_true, if_false]
    omega
  · simp [trialsIn, held, hfull]
  · -- A trial that ends has eleven bytes, and all of them were held.
    have hcost : 12 * trialsIn [e.pending.toList] ≤ min e.pending.size 11 + 1 := by
      cases htrial : isTrial e.pending.toList with
      | true =>
        have hlength := length_of_isTrial htrial
        rw [Array.length_toList] at hlength
        rw [show trialsIn [e.pending.toList] = 1 by simp [trialsIn, htrial]]
        omega
      | false => simp [trialsIn, htrial]
    simpa [dispatch, Event.dispatched_append, Event.dispatched, held] using hcost
  · have hsize : e.pending.size + 1 = lineCapacity := by rw [← hfill, Array.size_push]
    simp only [Event.dispatched_append, dispatched_echoed, Event.dispatched, List.append_nil,
      trialsIn, List.countP_nil, held, if_true]
    rw [lineCapacity] at hsize
    omega
  · simp only [dispatched_echoed, trialsIn, List.countP_nil, held, hfull, Array.size_push,
      Bool.false_eq_true, if_false]
    omega

theorem feed_cost (e : LineEditor) (b : UInt8) :
    12 * trialsIn (Event.dispatched (e.feed b).2) + (e.feed b).1.held ≤ e.held + 1 := by
  have hflush := e.flush_cost
  have haccept := e.flush.1.accept_cost e.flush_full b
  simp only [feed, Event.dispatched_append, trialsIn_append]
  omega

/-- The bytes of a pump pay for its trials. -/
theorem handedOut_cost (e : LineEditor) (bytes : List UInt8) :
    12 * trialsIn (e.handedOut bytes) ≤ e.held + bytes.length := by
  induction bytes generalizing e with
  | nil => simp [handedOut, trialsIn]
  | cons b bytes ih =>
    have hfeed := e.feed_cost b
    have hflush := (e.feed b).1.flush_cost
    have hrest := ih (e.feed b).1.flush.1
    simp only [handedOut, Event.dispatched_append, trialsIn_append, List.length_cons]
    omega

/-- One pump hands out at most `mostTrials` trials. -/
theorem trialsIn_handedOut_le (e : LineEditor) (bytes : List UInt8) :
    trialsIn (e.handedOut (bytes.take pumpLimit)) ≤ mostTrials := by
  have hcost := e.handedOut_cost (bytes.take pumpLimit)
  have hlength : (bytes.take pumpLimit).length ≤ pumpLimit := List.length_take_le _ _
  have hheld : e.held ≤ 12 := by
    unfold held
    split <;> omega
  generalize bytes.take pumpLimit = taken at hcost hlength ⊢
  simp only [mostTrials, pumpLimit] at hlength ⊢
  omega

/-! ## A queue full of trials -/

/-- The lines of a pump are lines of the reference. -/
theorem Tracks.handedOut_eq {e : LineEditor} {out : List (List UInt8)} {r : Reference}
    (h : e.Tracks out r) (hfull : e.full = false) (bytes : List UInt8) :
    out ++ e.handedOut bytes = (bytes.foldl Reference.take r).lines := by
  induction bytes generalizing e out r with
  | nil => rw [handedOut, List.append_nil, h.lines_of_collecting hfull, List.foldl_nil]
  | cons b bytes ih =>
    have hrest := ih (h.feed b).flush (e.feed b).1.flush_full
    rw [List.foldl_cons, ← hrest]
    simp only [handedOut, Event.dispatched_append, List.append_assoc]

end LineEditor

/-- The bytes of a trial of the lockout. -/
def trial : List UInt8 :=
  [0x53, 0x59, 0x53, 0x3A, 0x4C, 0x4F, 0x43, 0x4B, 0x4F, 0x55, 0x54]

/-- Trials of the lockout one after the other. -/
def flood (n : Nat) : List UInt8 :=
  (List.replicate n (trial ++ [0x0D])).flatten

theorem isTrial_trial : isTrial trial = true := by
  decide

theorem length_flood (n : Nat) : (flood n).length = 12 * n := by
  simp [flood, trial, Nat.mul_comm]

theorem foldl_take_flood (n : Nat) (lines : List (List UInt8)) :
    (flood n).foldl Reference.take { lines } = { lines := lines ++ List.replicate n trial } := by
  induction n generalizing lines with
  | zero => simp [flood]
  | succ n ih =>
    have hline : (trial ++ [0x0D]).foldl Reference.take { lines } =
        { lines := lines ++ [trial] } := by
      simp [trial, Reference.take, lineCapacity]
    rw [flood, List.replicate_succ, List.flatten_cons, List.foldl_append, hline, ← flood, ih,
      List.append_assoc, List.singleton_append, ← List.replicate_succ]

theorem take_flood {n : Nat} (h : 12 * n ≤ pumpLimit) : (flood n).take pumpLimit = flood n :=
  List.take_of_length_le (by rwa [length_flood])

theorem trialsIn_replicate (n : Nat) : trialsIn (List.replicate n trial) = n := by
  rw [trialsIn, List.countP_replicate, if_pos isTrial_trial]

/-- Trials that wait in the queue are all handed out in one pump. -/
theorem trialsIn_flood (echo : Bool) {n : Nat} (h : 12 * n ≤ pumpLimit) :
    trialsIn (LineEditor.handedOut { echo } ((flood n).take pumpLimit)) = n := by
  have hlines := (LineEditor.tracks_fresh echo).handedOut_eq rfl (flood n)
  rw [foldl_take_flood, List.nil_append, List.nil_append] at hlines
  rw [take_flood h, hlines, trialsIn_replicate]

theorem tracks_typed : LineEditor.Tracks { pending := trial.toArray } [] { unfinished := trial } where
  lines := rfl
  unfinished := rfl
  full_iff := by simp [trial, lineCapacity]
  room := by simp [trial, lineCapacity]
  lines_count := rfl
  overflows_count := rfl

/-- The same with one trial that was typed before but for its end. -/
theorem trialsIn_typed_flood {n : Nat} (h : 12 * n < pumpLimit) :
    trialsIn (LineEditor.handedOut { pending := trial.toArray }
      ((0x0D :: flood n).take pumpLimit)) = n + 1 := by
  have hlength : (0x0D :: flood n).length ≤ pumpLimit := by
    rw [List.length_cons, length_flood]
    exact h
  have hfirst : Reference.take { unfinished := trial } 0x0D = { lines := [trial] } := rfl
  have hlines := tracks_typed.handedOut_eq rfl (0x0D :: flood n)
  rw [List.foldl_cons, hfirst, foldl_take_flood, List.nil_append] at hlines
  rw [List.take_of_length_le hlength, hlines, List.singleton_append, ← List.replicate_succ,
    trialsIn_replicate]

end FanBoard
