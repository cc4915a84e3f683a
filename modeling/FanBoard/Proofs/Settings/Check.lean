import FanBoard.Settings.Source
import Mathlib.Tactic.SplitIfs

/-!
# What the check of the settings accepts

`Settings.Safe` says in whole numbers what the board needs: finite thresholds that are not negative,
periods of at least one millisecond, a watchdog of at least a second, and a wait for the lockout that
fits into the time of the watchdog twice.

The check doubles the wait in 32 bits, where the double of a long wait is the greatest number.  A
watchdog of exactly that many milliseconds passes for longer than any wait.  These settings are
`Saturated`, and they are all that the check accepts beside the safe ones (`check_eq_ok_iff`).

* `doubled_le_iff` is the comparison of the double in 32 bits with the time of the watchdog.
* `loadOrDefault_eq` says which settings the board starts with.
* `accepted_iff_safe_or_saturated` is the result, and `saturated_accepted` an instance of the
  exception.
-/

namespace FanBoard.Settings

/-- Everything that the board needs but for the wait and the watchdog held against each other. -/
structure Sound (s : Settings) : Prop where
  thresholds : ∀ x ∈ s.thresholds.toList, x.isFinite = true ∧ 0 ≤ x
  intervals : ∀ n ∈ s.intervals.toList, 1 ≤ n.toNat
  tachWindow : 1 ≤ s.tachWindow.toNat
  watchdogTimeout : 1000 ≤ s.watchdogTimeout.toNat
  lockoutTimeout : 1 ≤ s.lockoutTimeout.toNat

/-- The board can run, and two waits for the lockout end before the watchdog bites. -/
structure Safe (s : Settings) : Prop extends s.Sound where
  waitsFit : 2 * s.lockoutTimeout.toNat ≤ s.watchdogTimeout.toNat

/-- The double of the wait needs more than 32 bits, and the time of the watchdog is the greatest
number of 32 bits. -/
structure Saturated (s : Settings) : Prop where
  longWait : UInt32.size ≤ 2 * s.lockoutTimeout.toNat
  longestWatchdog : s.watchdogTimeout.toNat = UInt32.size - 1

/-- Saturated settings are not safe. -/
theorem Saturated.not_safe {s : Settings} (h : s.Saturated) : ¬s.Safe := by
  intro hsafe
  have hfits := hsafe.waitsFit
  have hlong := h.longWait
  have hwatchdog := h.longestWatchdog
  simp only [UInt32.size] at hlong hwatchdog
  omega

/-! ## One condition after the other -/

theorem areValid_iff (t : Thresholds) :
    t.areValid = true ↔ ∀ x ∈ t.toList, x.isFinite = true ∧ 0 ≤ x := by
  simp only [Thresholds.areValid, List.all_eq_true, Bool.and_eq_true, decide_eq_true_eq]

theorem eq_zero_iff (n : UInt32) : n = 0 ↔ n.toNat < 1 := by
  rw [Nat.lt_one_iff]
  exact UInt32.toNat_inj.symm

theorem contains_zero_iff (ns : List UInt32) :
    ns.contains 0 = false ↔ ∀ n ∈ ns, 1 ≤ n.toNat := by
  rw [List.contains_eq_mem, decide_eq_false_iff_not]
  constructor
  · intro h n hn
    rw [← Nat.not_lt, ← eq_zero_iff]
    exact fun hzero => h (hzero ▸ hn)
  · intro h hmem
    exact absurd (h 0 hmem) (by decide)

/-- The double in 32 bits is at most the time of a watchdog if the double itself is, or if both are at
the end of the range. -/
theorem doubled_le_iff (wait watchdog : UInt32) :
    doubled wait ≤ watchdog.toNat ↔
      2 * wait.toNat ≤ watchdog.toNat ∨
        UInt32.size ≤ 2 * wait.toNat ∧ watchdog.toNat = UInt32.size - 1 := by
  have hwatchdog : watchdog.toNat < UInt32.size := watchdog.toNat_lt_size
  simp only [doubled, UInt32.size] at hwatchdog ⊢
  omega

/-- No defect is found where every condition of the check holds. -/
theorem defect?_eq_none_iff (s : Settings) :
    s.defect? = none ↔
      s.Sound ∧ doubled s.lockoutTimeout ≤ s.watchdogTimeout.toNat := by
  have hshort : s.watchdogTimeout < 1000 ↔ s.watchdogTimeout.toNat < 1000 :=
    UInt32.lt_iff_toNat_lt
  constructor
  · intro h
    unfold defect? at h
    split_ifs at h with hthresholds hintervals htach hwatchdog hlockout
    rw [Bool.not_eq_true, Bool.not_eq_false'] at hthresholds
    rw [Bool.not_eq_true] at hintervals
    rw [eq_zero_iff, Nat.not_lt] at htach
    rw [hshort, Nat.not_lt] at hwatchdog
    rw [not_or, eq_zero_iff, Nat.not_lt, Nat.not_lt] at hlockout
    exact ⟨⟨(areValid_iff _).mp hthresholds, (contains_zero_iff _).mp hintervals, htach, hwatchdog,
      hlockout.1⟩, hlockout.2⟩
  · rintro ⟨h, hfits⟩
    unfold defect?
    rw [if_neg, if_neg, if_neg, if_neg, if_neg]
    · rw [not_or, eq_zero_iff, Nat.not_lt, Nat.not_lt]
      exact ⟨h.lockoutTimeout, hfits⟩
    · rw [hshort, Nat.not_lt]
      exact h.watchdogTimeout
    · rw [eq_zero_iff, Nat.not_lt]
      exact h.tachWindow
    · rw [Bool.not_eq_true]
      exact (contains_zero_iff _).mpr h.intervals
    · rw [Bool.not_eq_true, Bool.not_eq_false']
      exact (areValid_iff _).mpr h.thresholds

theorem check_eq_ok (s : Settings) : s.check = .ok s ↔ s.defect? = none := by
  unfold check
  cases s.defect? with
  | none => exact iff_of_true rfl rfl
  | some d => exact iff_of_false nofun nofun

/-- The check accepts the safe settings and the saturated ones. -/
theorem check_eq_ok_iff (s : Settings) :
    s.check = .ok s ↔ s.Safe ∨ s.Sound ∧ s.Saturated := by
  rw [check_eq_ok, defect?_eq_none_iff, doubled_le_iff]
  constructor
  · rintro ⟨hsound, hfits | ⟨hwait, hwatchdog⟩⟩
    · exact Or.inl ⟨hsound, hfits⟩
    · exact Or.inr ⟨hsound, hwait, hwatchdog⟩
  · rintro (hsafe | ⟨hsound, hsaturated⟩)
    · exact ⟨hsafe.toSound, Or.inl hsafe.waitsFit⟩
    · exact ⟨hsound, Or.inr ⟨hsaturated.longWait, hsaturated.longestWatchdog⟩⟩

/-! ## Loading -/

/-- The check gives the settings themselves or a defect. -/
theorem check_cases (s : Settings) : s.check = .ok s ∨ ∃ d, s.check = .error d := by
  unfold check
  cases s.defect? with
  | none => exact Or.inl rfl
  | some d => exact Or.inr ⟨d, rfl⟩

/-- The board starts with what was loaded if the check accepts it, and else with the defaults. -/
theorem loadOrDefault_eq (loaded : Except SettingsFault Settings) :
    (∃ s, loaded = .ok s ∧ s.check = .ok s ∧ (loadOrDefault loaded).1 = s) ∨
      (∀ s, loaded = .ok s → s.check ≠ .ok s) ∧ (loadOrDefault loaded).1 = {} := by
  cases loaded with
  | error f => exact Or.inr ⟨nofun, rfl⟩
  | ok s =>
    rcases s.check_cases with hok | ⟨d, herror⟩
    · refine Or.inl ⟨s, rfl, hok, ?_⟩
      have hvalidated : validated (.ok s) = .ok s := by
        show (s.check.mapError fun d => Fault.settings d.message) = _
        rw [hok]
        rfl
      rw [loadOrDefault, hvalidated]
    · refine Or.inr ⟨?_, ?_⟩
      · intro s' hs'
        rw [← Except.ok.inj hs', herror]
        exact nofun
      · have hvalidated : validated (.ok s) = .error (.settings d.message) := by
          show (s.check.mapError fun d => Fault.settings d.message) = _
          rw [herror]
          rfl
        rw [loadOrDefault, hvalidated]

/-- The defaults pass their own check, and safely. -/
theorem default_safe : Safe {} := by
  have hcheck : check {} = .ok {} := (check_eq_ok {}).mpr (by decide)
  rcases (check_eq_ok_iff {}).mp hcheck with hsafe | ⟨_, hsaturated⟩
  · exact hsafe
  · exact absurd hsaturated.longestWatchdog (by decide)

/-! ## The result -/

/-- The check accepts the safe settings, and beside them only settings that are sound and saturated,
which are not safe.  What the board starts with is safe unless such settings were loaded. -/
theorem accepted_iff_safe_or_saturated (s : Settings) (loaded : Except SettingsFault Settings) :
    (s.check = .ok s ↔ s.Safe ∨ s.Sound ∧ s.Saturated) ∧ (s.Saturated → ¬s.Safe) ∧
      ((loadOrDefault loaded).1.Safe ↔
        ¬∃ exception, loaded = .ok exception ∧ exception.Sound ∧ exception.Saturated) := by
  refine ⟨check_eq_ok_iff s, Saturated.not_safe, ?_⟩
  rcases loadOrDefault_eq loaded with ⟨s, hloaded, hcheck, hstart⟩ | ⟨hrefused, hstart⟩
  · rw [hstart]
    constructor
    · rintro hsafe ⟨s', hs', _, hsaturated⟩
      rw [hloaded] at hs'
      rw [← Except.ok.inj hs'] at hsaturated
      exact hsaturated.not_safe hsafe
    · intro hnone
      rcases (check_eq_ok_iff s).mp hcheck with hsafe | hexception
      · exact hsafe
      · exact absurd ⟨s, hloaded, hexception⟩ hnone
  · rw [hstart]
    refine iff_of_true default_safe ?_
    rintro ⟨s, hs, hexception⟩
    exact hrefused s hs ((check_eq_ok_iff s).mpr (Or.inr hexception))

/-- The longest wait and the longest watchdog. -/
def longest : Settings :=
  { lockoutTimeout := 4294967295, watchdogTimeout := 4294967295 }

/-- The check accepts the longest wait with the longest watchdog, and the board starts with them,
though the wait fits into the watchdog only once. -/
theorem saturated_accepted :
    longest.check = .ok longest ∧ (loadOrDefault (.ok longest)).1 = longest ∧ ¬longest.Safe := by
  have hcheck : longest.check = .ok longest := (check_eq_ok longest).mpr (by decide)
  refine ⟨hcheck, ?_, ?_⟩
  · rcases loadOrDefault_eq (.ok longest) with ⟨s, hs, _, hstart⟩ | ⟨hrefused, _⟩
    · rw [hstart, Except.ok.inj hs]
    · exact absurd hcheck (hrefused longest rfl)
  · intro hsafe
    exact absurd hsafe.waitsFit (by decide)

end FanBoard.Settings
