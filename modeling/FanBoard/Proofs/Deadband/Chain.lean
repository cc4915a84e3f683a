import FanBoard.Proofs.Deadband
import FanBoard.Proofs.Number.Distance

/-!
# The chain of changes

A slot meets samples one after the other.  `replies` keeps what it gives for each of them, so the
samples that `passed` into the slot and the values that they `replaced` can be told from outside.

* `changed_comm`: what is a change is one in both directions.
* `changed_apply`: the slot never lags behind the sample that it met last.
* `replies_of_not_changed`: samples that are no change leave the slot as it is, however many come.
* `replaced_concat_follow`: the changes form a chain.  Each of them replaces the sample that passed
  before it.
* `follows_in_chain` collects these for a slot after any samples.
-/

namespace FanBoard.Deadband

/-! ## One sample -/

theorem changed_comm (prev next threshold : Float32) :
    changed prev next threshold = changed next prev threshold := by
  rw [changed, changed, Single.abs_sub_comm]

/-- The slot never lags behind the sample that it met last. -/
theorem changed_apply {threshold : Float32} (hpos : 0 < threshold) (slot sample : Float32) :
    changed (apply slot sample threshold).1 sample threshold = false := by
  by_cases h : changed slot sample threshold = true
  · rw [apply_of_changed h]
    exact changed_self sample hpos
  · rw [Bool.not_eq_true] at h
    rw [apply_of_not_changed h]
    exact h

/-! ## Samples in a row -/

/-- Samples one after the other, each with the value that it replaced if it was a change. -/
def replies (threshold slot : Float32) : List Float32 → List (Float32 × Option Float32)
  | [] => []
  | sample :: samples =>
    (sample, (apply slot sample threshold).2) ::
      replies threshold (apply slot sample threshold).1 samples

/-- The samples that went into the slot. -/
def passed (threshold slot : Float32) (samples : List Float32) : List Float32 :=
  (replies threshold slot samples).filterMap fun reply => reply.2.map fun _ => reply.1

/-- The values that were given back. -/
def replaced (threshold slot : Float32) (samples : List Float32) : List Float32 :=
  (replies threshold slot samples).filterMap Prod.snd

theorem replies_append (threshold slot : Float32) (xs ys : List Float32) :
    replies threshold slot (xs ++ ys) =
      replies threshold slot xs ++ replies threshold (follow threshold slot xs) ys := by
  induction xs generalizing slot with
  | nil => rfl
  | cons x xs ih =>
    simp only [List.cons_append, replies, ih]
    rfl

section

variable {threshold slot sample : Float32}

theorem replies_cons_of_changed (h : changed slot sample threshold = true)
    (samples : List Float32) :
    replies threshold slot (sample :: samples) =
      (sample, some slot) :: replies threshold sample samples := by
  rw [replies, apply_of_changed h]

theorem replies_cons_of_not_changed (h : changed slot sample threshold = false)
    (samples : List Float32) :
    replies threshold slot (sample :: samples) =
      (sample, none) :: replies threshold slot samples := by
  rw [replies, apply_of_not_changed h]

theorem follow_cons_of_changed (h : changed slot sample threshold = true)
    (samples : List Float32) :
    follow threshold slot (sample :: samples) = follow threshold sample samples := by
  rw [follow, List.foldl_cons, apply_of_changed h]
  rfl

theorem follow_cons_of_not_changed (h : changed slot sample threshold = false)
    (samples : List Float32) :
    follow threshold slot (sample :: samples) = follow threshold slot samples := by
  rw [follow, List.foldl_cons, apply_of_not_changed h]
  rfl

/-- Samples that are no change leave the slot as it is. -/
theorem follow_of_not_changed {samples : List Float32}
    (h : ∀ sample ∈ samples, changed slot sample threshold = false) :
    follow threshold slot samples = slot := by
  induction samples with
  | nil => rfl
  | cons sample samples ih =>
    rw [follow_cons_of_not_changed (h sample List.mem_cons_self)]
    exact ih fun later hlater => h later (List.mem_cons_of_mem sample hlater)

/-- Nothing is given back for samples that are no change. -/
theorem replies_of_not_changed {samples : List Float32}
    (h : ∀ sample ∈ samples, changed slot sample threshold = false) :
    replies threshold slot samples = samples.map fun sample => (sample, none) := by
  induction samples with
  | nil => rfl
  | cons sample samples ih =>
    rw [replies_cons_of_not_changed (h sample List.mem_cons_self), List.map_cons,
      ih fun later hlater => h later (List.mem_cons_of_mem sample hlater)]

end

/-- The values given back and then the slot are the first value and then the samples that passed. -/
theorem replaced_concat_follow (threshold slot : Float32) (samples : List Float32) :
    replaced threshold slot samples ++ [follow threshold slot samples] =
      slot :: passed threshold slot samples := by
  induction samples generalizing slot with
  | nil => rfl
  | cons sample samples ih =>
    by_cases h : changed slot sample threshold = true
    · calc
        replaced threshold slot (sample :: samples) ++
            [follow threshold slot (sample :: samples)]
        _ = slot :: (replaced threshold sample samples ++ [follow threshold sample samples]) := by
          simp [replaced, replies_cons_of_changed h, follow_cons_of_changed h]
        _ = slot :: sample :: passed threshold sample samples := by rw [ih]
        _ = slot :: passed threshold slot (sample :: samples) := by
          simp [passed, replies_cons_of_changed h]
    · rw [Bool.not_eq_true] at h
      calc
        replaced threshold slot (sample :: samples) ++
            [follow threshold slot (sample :: samples)]
        _ = replaced threshold slot samples ++ [follow threshold slot samples] := by
          simp [replaced, replies_cons_of_not_changed h, follow_cons_of_not_changed h]
        _ = slot :: passed threshold slot samples := ih slot
        _ = slot :: passed threshold slot (sample :: samples) := by
          simp [passed, replies_cons_of_not_changed h]

/-- A slot under a positive threshold, after any samples.

* A change is one in both directions.
* One more sample is no change any more once the slot has met it, and nothing is given back for it
  the second time.
* Further samples that are no change leave the slot as it is, and nothing is given back for them.
* The values that were given back and then the value in the slot are the first value and then the
  samples that passed. -/
theorem follows_in_chain {threshold : Float32} (hpos : 0 < threshold) (start : Float32)
    (samples : List Float32) :
    (∀ prev next, changed prev next threshold = changed next prev threshold) ∧
    (∀ sample,
      let slot := follow threshold start (samples ++ [sample])
      changed slot sample threshold = false ∧ apply slot sample threshold = (slot, none)) ∧
    (∀ further : List Float32,
      (∀ sample ∈ further,
        changed (follow threshold start samples) sample threshold = false) →
      follow threshold start (samples ++ further) = follow threshold start samples ∧
        replies threshold start (samples ++ further) =
          replies threshold start samples ++ further.map fun sample => (sample, none)) ∧
    replaced threshold start samples ++ [follow threshold start samples] =
      start :: passed threshold start samples := by
  refine ⟨fun prev next => changed_comm prev next threshold, ?_, ?_,
    replaced_concat_follow threshold start samples⟩
  · intro sample slot
    have hslot : slot = (apply (follow threshold start samples) sample threshold).1 :=
      follow_append threshold start samples [sample]
    have hsettled : changed slot sample threshold = false := hslot ▸ changed_apply hpos _ sample
    exact ⟨hsettled, apply_of_not_changed hsettled⟩
  · intro further hfurther
    rw [follow_append, replies_append, replies_of_not_changed hfurther]
    exact ⟨follow_of_not_changed hfurther, rfl⟩

/-- A reading that jitters, fails, and runs away for a moment. -/
def jitter : List Float32 :=
  [20.25, 20.5, Single.nan, 20.75, 1 / 0, 1 / 0, 21, 20.75]

theorem follows_in_chain_jitter :
    (0 : Float32) < 0.5 ∧
      changed (follow 0.5 20 (jitter ++ [21.5])) 21.5 0.5 = false ∧
      (∀ sample ∈ [Single.nan, 20.75, 21.25],
        changed (follow 0.5 20 jitter) sample 0.5 = false) ∧
      follow 0.5 20 (jitter ++ [Single.nan, 20.75, 21.25]) = 21 ∧
      passed 0.5 20 jitter = [20.5, 1 / 0, 21] ∧
      replaced 0.5 20 jitter ++ [21] = [20, 20.5, 1 / 0, 21] := by
  have hpos : (0 : Float32) < 0.5 := by decide
  obtain ⟨_, hmet, hfurther, hchain⟩ := follows_in_chain hpos 20 jitter
  have hpassed : passed 0.5 20 jitter = [20.5, 1 / 0, 21] := by decide
  rw [hpassed] at hchain
  have hslot : follow 0.5 20 jitter = 21 :=
    Option.some.inj (List.getLast?_concat.symm.trans (congrArg List.getLast? hchain))
  have hsmall : ∀ sample ∈ [Single.nan, 20.75, 21.25],
      changed (follow 0.5 20 jitter) sample 0.5 = false := by
    rw [hslot]
    decide
  rw [hslot] at hchain
  exact ⟨hpos, (hmet 21.5).1, hsmall, (hfurther _ hsmall).1.trans hslot, hpassed, hchain⟩

end FanBoard.Deadband
