import FanBoard.Proofs.Timetable.Turn
import Mathlib.Order.Monotone.Basic

/-!
# When the slots run

A `Course` is a timetable in use: the slots that were asked for, who runs the tasks, the times of the
ticks, and what happens outside before each tick.  Ticks and slots are counted from zero.

What a slot does is read off the calls that its turn makes (`Fires`), and whether it should is read
off the earlier ticks in which it did (`LastFire`, `Elapsed`, `Due`).  The slot itself remembers one
time and one count.

* `slot_remembers` is the invariant: the time is that of the last tick in which the slot ran, and the
  count is the number of those ticks.
* `fires_iff_due` is one tick: a slot runs exactly when it is due.
* `fires_apart` bounds the time between two runs.  The tick before the later run came too early for it,
  and between that tick and the run no more than the longest time between two ticks has passed.
* `fires_when_due` is the result for a whole course.
-/

namespace FanBoard

/-- A timetable in use. -/
structure Course (ρ : Type) where
  /-- The slots that were asked for, in order. -/
  asked : List (Task × Cadence)
  runner : Runner ρ
  /-- When a tick comes. -/
  time : Nat → Nat
  /-- What happens before a tick to the state of the runner. -/
  outside : Nat → ρ → ρ := fun _ r => r
  start : ρ

namespace Course

variable {ρ : Type} (c : Course ρ)

/-! ## The ticks of a course -/

/-- The timetable and the state of the runner before tick `k`. -/
def before : Nat → Timetable × ρ
  | 0 => ((Timetable.addAll {} c.asked).state, c.start)
  | k + 1 => (before k).1.tick c.runner (c.time k) (c.outside k (before k).2)

/-- Where nothing happens outside, the course is the ticks at its times. -/
theorem before_eq_ticks (houtside : ∀ k r, c.outside k r = r) (k : Nat) :
    c.before k =
      (Timetable.addAll {} c.asked).state.ticks c.runner ((List.range k).map c.time) c.start := by
  induction k with
  | zero => rfl
  | succ k ih =>
    rw [before, houtside, ih, List.range_succ, List.map_append, Timetable.ticks, Timetable.ticks,
      List.foldl_append]
    rfl

/-- The tasks and the cadences of the slots. -/
def table : List (Task × Cadence) :=
  (Timetable.addAll {} c.asked).state.plan

/-- What the tasks of tick `k` are told. -/
def tick (k : Nat) : Tick :=
  (c.before k).1.tickAt (c.time k)

/-- The calls that tick `k` makes. -/
def calls (k : Nat) : List RunCall :=
  ((c.before k).1.tick c.runner.recorded (c.time k)
    { state := c.outside k (c.before k).2 }).2.calls

/-- The state of the runner when the pass of tick `k` begins. -/
def begun (k : Nat) : ρ :=
  (c.before k).1.begun c.runner (c.time k) (c.outside k (c.before k).2)

/-- The state of the runner when slot `i` has its turn in tick `k`. -/
def turn (i k : Nat) : ρ :=
  Timetable.turn c.runner (c.tick k) (c.before k).1.slots (c.begun k) i

/-- The calls that slot `i` makes in its turn in tick `k`. -/
def turnCalls (i k : Nat) : List RunCall :=
  Timetable.turnCalls c.runner (c.tick k) (c.before k).1.slots (c.begun k) i

/-- Slot `i` runs in tick `k`. -/
def Fires (i k : Nat) : Prop :=
  c.turnCalls i k ≠ []

instance (i k : Nat) : Decidable (c.Fires i k) :=
  inferInstanceAs (Decidable (c.turnCalls i k ≠ []))

/-! ## When a slot should run -/

/-- Before tick `k`, slot `i` ran last in tick `j`. -/
def LastFire (i k j : Nat) : Prop :=
  j < k ∧ c.Fires i j ∧ ∀ m, j < m → m < k → ¬c.Fires i m

/-- Slot `i` never ran before tick `k`, or at least `ms` milliseconds have passed since it did. -/
def Elapsed (i : Nat) (ms : UInt32) (k : Nat) : Prop :=
  ∀ j, c.LastFire i k j → c.time j + ms.toNat * 1000 ≤ c.time k

/-- Slot `i` with this task and cadence should run in tick `k`. -/
def Due (i : Nat) (task : Task) (cadence : Cadence) (k : Nat) : Prop :=
  match cadence with
  | .every ms => c.Elapsed i ms k
  | .pendingOrEvery ms => c.runner.pending task (c.turn i k) = true ∨ c.Elapsed i ms k
  | .everyTick => True

variable {c} {i k : Nat}

theorem LastFire.unique {j j' : Nat} (h : c.LastFire i k j) (h' : c.LastFire i k j') : j = j' := by
  by_contra hne
  rcases Nat.lt_or_gt_of_ne hne with hlt | hlt
  · exact h.2.2 j' hlt h'.1 h'.2.1
  · exact h'.2.2 j hlt h.1 h.2.1

theorem lastFire_succ_of_fires (h : c.Fires i k) (j : Nat) : c.LastFire i (k + 1) j ↔ j = k := by
  constructor
  · rintro ⟨hj, _, hnone⟩
    by_contra hne
    exact hnone k (by omega) (by omega) h
  · rintro rfl
    exact ⟨by omega, h, fun m hm hm' => by omega⟩

theorem lastFire_succ_of_not_fires (h : ¬c.Fires i k) (j : Nat) :
    c.LastFire i (k + 1) j ↔ c.LastFire i k j := by
  constructor
  · rintro ⟨hj, hfires, hnone⟩
    have hne : j ≠ k := fun heq => h (heq ▸ hfires)
    exact ⟨by omega, hfires, fun m hm hm' => hnone m hm (by omega)⟩
  · rintro ⟨hj, hfires, hnone⟩
    refine ⟨by omega, hfires, fun m hm hm' => ?_⟩
    by_cases hmk : m = k
    · rwa [hmk]
    · exact hnone m hm (by omega)

/-! ## The slots on their way -/

variable (c)

theorem table_eq : c.table = c.asked.take Timetable.capacity := by
  simp [table, Timetable.plan, Timetable.addAll_slots_take, Slot.plan, Function.comp_def]

theorem before_plan (k : Nat) : (c.before k).1.plan = c.table := by
  induction k with
  | zero => rfl
  | succ k ih => rw [before, Timetable.tick_plan, ih]

theorem length_slots (k : Nat) : (c.before k).1.slots.length = c.table.length := by
  rw [← c.before_plan k, Timetable.plan, List.length_map]

theorem slots_succ (i k : Nat) :
    (c.before (k + 1)).1.slots[i]? =
      (c.before k).1.slots[i]?.map fun s => (s.visit c.runner (c.tick k) (c.turn i k)).1 := by
  rw [before, Timetable.tick_slots]
  exact Timetable.visitAll_getElem? c.runner (c.tick k) (c.before k).1.slots (c.begun k) i

variable {c}

/-- The slot at a place of the table, before any tick. -/
theorem exists_slot {task : Task} {cadence : Cadence} (h : c.table[i]? = some (task, cadence))
    (k : Nat) :
    ∃ s, (c.before k).1.slots[i]? = some s ∧ s.task = task ∧ s.cadence = cadence := by
  rw [← c.before_plan k, Timetable.plan, List.getElem?_map, Option.map_eq_some_iff] at h
  obtain ⟨s, hs, hplan⟩ := h
  obtain ⟨htask, hcadence⟩ := Prod.mk.inj hplan
  exact ⟨s, hs, htask, hcadence⟩

section Slot

variable {s : Slot} (hs : (c.before k).1.slots[i]? = some s)

include hs

theorem turnCalls_eq :
    c.turnCalls i k =
      if s.isDue c.runner (c.time k) (c.turn i k) then [⟨s.task, c.tick k⟩] else [] := by
  rw [turnCalls, Timetable.turnCalls, hs]
  exact s.calls_eq c.runner (c.tick k) (c.turn i k)

theorem fires_iff_isDue : c.Fires i k ↔ s.isDue c.runner (c.time k) (c.turn i k) = true := by
  rw [Fires, turnCalls_eq hs]
  split <;> simp [*]

theorem slot_succ_of_fires (h : c.Fires i k) :
    (c.before (k + 1)).1.slots[i]? =
      some { s with lastRun := some (c.time k), runs := s.runs + 1 } := by
  have hdue : s.isDue c.runner (c.tick k).now (c.turn i k) = true := (fires_iff_isDue hs).mp h
  rw [slots_succ, hs, Option.map_some, Slot.visit, if_pos hdue]
  rfl

theorem slot_succ_of_not_fires (h : ¬c.Fires i k) :
    (c.before (k + 1)).1.slots[i]? = some s := by
  have hdue : ¬s.isDue c.runner (c.tick k).now (c.turn i k) = true :=
    fun hdue => h ((fires_iff_isDue hs).mpr hdue)
  rw [slots_succ, hs, Option.map_some, Slot.visit, if_neg hdue]

end Slot

/-- A tick ends with the last slot if that runs in every tick. -/
theorem before_succ_of_last (c : Course ρ) {n : Nat} {task : Task} (hlength : c.table.length = n + 1)
    (hlast : c.table[n]? = some (task, .everyTick)) (k : Nat) :
    (c.before (k + 1)).2 = c.runner.run task (c.tick k) (c.turn n k) := by
  obtain ⟨s, hs, rfl, hcadence⟩ := exists_slot hlast k
  have hslots : (c.before k).1.slots = (c.before k).1.slots.take n ++ [s] := by
    have hdrop : (c.before k).1.slots.drop n = [s] := by
      obtain ⟨hn, heq⟩ := List.getElem?_eq_some_iff.mp hs
      rw [List.drop_eq_getElem_cons hn, heq, List.drop_eq_nil_of_le]
      rw [length_slots, hlength]
    rw [← hdrop, List.take_append_drop]
  have hpass : (c.before (k + 1)).2 =
      (Timetable.visitAll c.runner (c.tick k) (c.before k).1.slots (c.begun k)).2 := rfl
  rw [hpass, hslots, Timetable.visitAll_append]
  show (s.visit c.runner (c.tick k) (c.turn n k)).2 = _
  rw [Slot.visit, Slot.isDue, hcadence]
  rfl

/-- What the slots before a slot keep holds when its turn comes. -/
theorem turn_keeps (c : Course ρ) {P : ρ → Prop} {n k : Nat} (h : P (c.outside k (c.before k).2))
    (hnote : ∀ line r, P r → P (c.runner.note line r))
    (hrun : ∀ p ∈ c.table.take n, ∀ r, P r → P (c.runner.run p.1 (c.tick k) r)) :
    P (c.turn n k) := by
  refine Timetable.visitAll_keeps (fun s hs r hr => ?_) ?_
  · have hplan : s.plan ∈ c.table.take n := by
      rw [← c.before_plan k, Timetable.plan, ← List.map_take]
      exact List.mem_map_of_mem hs
    exact hrun _ hplan r hr
  · unfold Course.begun Timetable.begun
    split
    · exact hnote _ _ h
    · exact h

/-- What a slot remembers before tick `k`: when it last ran, and how often it ran. -/
structure Remembers (c : Course ρ) (i k : Nat) (s : Slot) : Prop where
  lastRun : ∀ last, s.lastRun = some last ↔ ∃ j, c.LastFire i k j ∧ c.time j = last
  runs : s.runs = (List.range k).countP fun j => decide (c.Fires i j)

theorem slot_remembers {s : Slot} (hs : (c.before k).1.slots[i]? = some s) :
    c.Remembers i k s := by
  induction k generalizing s with
  | zero =>
    have hmem := List.mem_of_getElem? hs
    rw [before, Timetable.addAll_slots_take, List.nil_append] at hmem
    obtain ⟨p, _, rfl⟩ := List.mem_map.mp hmem
    constructor
    · intro last
      refine iff_of_false nofun ?_
      rintro ⟨j, hj, _⟩
      exact absurd hj.1 (Nat.not_lt_zero j)
    · rfl
  | succ k ih =>
    obtain ⟨s', hold, _⟩ := Option.map_eq_some_iff.mp ((c.slots_succ i k).symm.trans hs)
    have hrem := ih hold
    by_cases hfires : c.Fires i k
    · have hnew := slot_succ_of_fires hold hfires
      rw [hs, Option.some_inj] at hnew
      subst hnew
      constructor
      · intro last
        simp only [lastFire_succ_of_fires hfires, exists_eq_left, Option.some_inj]
      · rw [List.range_succ, List.countP_append, ← hrem.runs]
        simp [hfires]
    · have hsame := slot_succ_of_not_fires hold hfires
      rw [hs, Option.some_inj] at hsame
      subst hsame
      constructor
      · intro last
        simp only [lastFire_succ_of_not_fires hfires]
        exact hrem.lastRun last
      · rw [List.range_succ, List.countP_append, ← hrem.runs]
        simp [hfires]

/-! ## One tick -/

section Monotone

variable (hmono : Monotone c.time)

include hmono

theorem elapsed_iff {s : Slot} (hs : (c.before k).1.slots[i]? = some s) (ms : UInt32) :
    s.elapsed (c.time k) ms = true ↔ c.Elapsed i ms k := by
  have hrem := (slot_remembers hs).lastRun
  unfold Slot.elapsed
  cases hlast : s.lastRun with
  | none =>
    refine iff_of_true rfl ?_
    intro j hj
    have hsome := (hrem (c.time j)).mpr ⟨j, hj, rfl⟩
    rw [hlast] at hsome
    cases hsome
  | some last =>
    obtain ⟨j, hj, rfl⟩ := (hrem last).mp hlast
    have hle : c.time j ≤ c.time k := hmono (Nat.le_of_lt hj.1)
    rw [decide_eq_true_iff]
    constructor
    · intro hpassed j' hj'
      rw [hj'.unique hj]
      omega
    · intro helapsed
      have hpassed := helapsed j hj
      omega

/-- A slot runs exactly when it is due. -/
theorem fires_iff_due {task : Task} {cadence : Cadence}
    (h : c.table[i]? = some (task, cadence)) (k : Nat) :
    c.Fires i k ↔ c.Due i task cadence k := by
  obtain ⟨s, hs, rfl, rfl⟩ := exists_slot h k
  rw [fires_iff_isDue hs]
  unfold Slot.isDue Due
  cases s.cadence with
  | every ms => exact elapsed_iff hmono hs ms
  | pendingOrEvery ms =>
    rw [Bool.or_eq_true]
    exact or_congr_right (elapsed_iff hmono hs ms)
  | everyTick => exact iff_of_true rfl trivial

/-! ## Two runs -/

omit hmono in
/-- Two ticks in a row are no further apart than the longest time between two ticks. -/
theorem time_succ_le (k : Nat) : c.time (k + 1) ≤ c.time k + (c.tick (k + 1)).maxLoop := by
  have hmax : (c.tick (k + 1)).maxLoop =
      max (c.before (k + 1)).1.maxLoop (c.time (k + 1) - c.time k) := rfl
  omega

/-- Two runs of a slot in a row are at least its interval apart, and by less than its interval and
the longest time between two ticks together. -/
theorem fires_apart {task : Task} {ms : UInt32} (h : c.table[i]? = some (task, .every ms))
    (hms : 1 ≤ ms) {a b : Nat} (hlast : c.LastFire i b a) (hfires : c.Fires i b) :
    ms.toNat * 1000 ≤ c.time b - c.time a ∧
      c.time b - c.time a < ms.toNat * 1000 + (c.tick b).maxLoop := by
  have hpos : 1 ≤ ms.toNat := UInt32.le_iff_toNat_le.mp hms
  have hdue : c.Elapsed i ms b := (fires_iff_due hmono h b).mp hfires
  have helapsed := hdue a hlast
  refine ⟨by omega, ?_⟩
  have hlt : a < b := hlast.1
  obtain ⟨p, rfl⟩ : ∃ p, b = p + 1 := ⟨b - 1, by omega⟩
  have hstep := c.time_succ_le p
  have htick : c.time p < c.time a + ms.toNat * 1000 := by
    rcases Nat.lt_or_eq_of_le (Nat.le_of_lt_succ hlast.1) with hap | rfl
    · -- the slot did not run in the tick before, so that tick came too early
      have hnot : ¬c.Elapsed i ms p := fun hearly =>
        hlast.2.2 p hap (Nat.lt_succ_self p) ((fires_iff_due hmono h p).mpr hearly)
      by_contra hlate
      refine hnot fun j hj => ?_
      have hsame : c.LastFire i p a :=
        ⟨hap, hlast.2.1, fun m hm hm' => hlast.2.2 m hm (by omega)⟩
      rw [hj.unique hsame]
      omega
    · omega
  omega

end Monotone

/-! ## The main result -/

variable (c)

/-- The calls of a tick are the calls of the turns in order. -/
theorem calls_eq (k : Nat) :
    c.calls k = (List.range c.table.length).flatMap fun i => c.turnCalls i k := by
  rw [← c.length_slots k]
  exact Timetable.tick_calls _ _ _ _

theorem calls_sublist (k : Nat) :
    ((c.calls k).map RunCall.task).Sublist (c.table.map Prod.fst) := by
  have hslots : (c.before k).1.slots.map Slot.task = c.table.map Prod.fst := by
    rw [← c.before_plan k, Timetable.plan, List.map_map]
    rfl
  rw [calls_eq, ← c.length_slots k, ← hslots]
  exact Timetable.turnCalls_sublist _ _ _ _

/-- A course whose ticks never go back in time.  In every tick:

* the calls are the calls of the slots in order, and a slot makes one call if it runs and none if it
  does not;
* a slot runs exactly when it is due, and in the first tick it is;
* two runs in a row of a slot with an interval are at least the interval apart, and by less than the
  interval and the longest time between two ticks together;
* the count of a slot is the number of ticks in which it ran. -/
theorem fires_when_due (hmono : Monotone c.time) :
    (∀ k, (c.calls k = (List.range c.table.length).flatMap fun i => c.turnCalls i k) ∧
      ((c.calls k).map RunCall.task).Sublist (c.table.map Prod.fst)) ∧
    ∀ i task cadence, c.table[i]? = some (task, cadence) →
      (∀ k, c.turnCalls i k = if c.Fires i k then [⟨task, c.tick k⟩] else []) ∧
      c.Fires i 0 ∧
      (∀ k, c.Fires i k ↔ c.Due i task cadence k) ∧
      (∀ ms, cadence = .every ms → 1 ≤ ms → ∀ a b, c.LastFire i b a → c.Fires i b →
        ms.toNat * 1000 ≤ c.time b - c.time a ∧
          c.time b - c.time a < ms.toNat * 1000 + (c.tick b).maxLoop) ∧
      ∀ k, ∃ s, (c.before k).1.slots[i]? = some s ∧
        s.runs = (List.range k).countP fun j => decide (c.Fires i j) := by
  refine ⟨fun k => ⟨c.calls_eq k, c.calls_sublist k⟩, ?_⟩
  intro i task cadence h
  have hdue := fires_iff_due hmono h
  refine ⟨?_, ?_, hdue, ?_, ?_⟩
  · intro k
    obtain ⟨s, hs, rfl, _⟩ := exists_slot h k
    simp only [turnCalls_eq hs, fires_iff_isDue hs]
  · have helapsed : ∀ ms, c.Elapsed i ms 0 := fun ms j hj => absurd hj.1 (Nat.not_lt_zero j)
    rw [hdue 0]
    cases cadence with
    | every ms => exact helapsed ms
    | pendingOrEvery ms => exact Or.inr (helapsed ms)
    | everyTick => trivial
  · rintro ms rfl hms a b hlast hfires
    exact fires_apart hmono h hms hlast hfires
  · intro k
    obtain ⟨s, hs, _⟩ := exists_slot h k
    exact ⟨s, hs, (slot_remembers hs).runs⟩

/-- A tick every 1.5 milliseconds.  A sample of the duties gives the output update work. -/
def sampling : Course Bool where
  asked := [(.inputDuty, .every 2), (.outputUpdate, .pendingOrEvery 5), (.watchdog, .everyTick)]
  runner :=
    { run := fun task _ work =>
        match task with
        | .inputDuty => true
        | .outputUpdate => false
        | _ => work
      pending := fun task work => task == .outputUpdate && work
      note := fun _ work => work }
  time k := 1500 * k
  start := false

/-- The sample runs again in the third tick, and the output update with it. -/
theorem fires_when_due_sampling :
    Monotone sampling.time ∧ sampling.table[0]? = some (.inputDuty, .every 2) ∧
      sampling.LastFire 0 2 0 ∧ sampling.Fires 0 2 ∧
      2 * 1000 ≤ sampling.time 2 - sampling.time 0 ∧
      sampling.time 2 - sampling.time 0 < 2 * 1000 + (sampling.tick 2).maxLoop ∧
      ¬sampling.Elapsed 1 5 2 ∧ sampling.Fires 1 2 := by
  have hmono : Monotone sampling.time := fun a b h => Nat.mul_le_mul_left 1500 h
  have hzero : sampling.table[0]? = some (.inputDuty, .every 2) := by decide
  have hone : sampling.table[1]? = some (.outputUpdate, .pendingOrEvery 5) := by decide
  have hlast : sampling.LastFire 0 2 0 := by
    refine ⟨by decide, by decide, fun m h₀ h₂ => ?_⟩
    obtain rfl : m = 1 := by omega
    decide
  have hfires : sampling.Fires 0 2 := by decide
  obtain ⟨_, hslots⟩ := fires_when_due sampling hmono
  obtain ⟨_, _, _, hapart, _⟩ := hslots 0 _ _ hzero
  obtain ⟨_, _, hdue, _, _⟩ := hslots 1 _ _ hone
  have hspacing := hapart 2 rfl (by decide) 0 2 hlast hfires
  refine ⟨hmono, hzero, hlast, hfires, hspacing.1, hspacing.2, ?_, ?_⟩
  · intro helapsed
    have hearlier : sampling.LastFire 1 2 0 := by
      refine ⟨by decide, by decide, fun m h₀ h₂ => ?_⟩
      obtain rfl : m = 1 := by omega
      decide
    exact absurd (helapsed 0 hearlier) (by decide)
  · exact (hdue 2).mpr (Or.inl (by decide))

end Course

end FanBoard
