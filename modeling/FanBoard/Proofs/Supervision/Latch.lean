import FanBoard.Supervision.Watchdog
import Mathlib.Data.List.Induction

/-!
# When a watchdog with a deadline expires

A watchdog looks at its deadline only when it is polled.  So it expires when it is overdue at a poll.
If it is fed before it is polled, the feed moves the deadline on, however late it comes.

* `Deadline` is what the acts alone say: the time, the timeout, and when the watchdog was armed or fed
  last.
* `Found` says that a poll since it was armed came when it was overdue.
* `Tracks` ties a watchdog to both, and `expired_iff_found` is what follows for every poll.
-/

namespace FanBoard

/-! ## Watchdogs with a register and a clock -/

/-- What is done with a watchdog, and with the clock that it reads. -/
inductive WatchdogAct where
  | arm (ms : UInt32)
  | feed
  | poll
  | wait (us : Nat)
deriving DecidableEq

/-- A watchdog with the register that it records into and the time on its clock. -/
structure Watch where
  supervisor : Supervisor := {}
  register : ResetRegister := {}
  now : Nat := 0

namespace Watch

/-- What a poll reports. -/
def status (w : Watch) : WatchdogStatus :=
  (w.supervisor.poll w.register w.now).value

def act (w : Watch) : WatchdogAct → Watch
  | .arm ms => { w with supervisor := w.supervisor.arm w.now ms }
  | .feed => { w with supervisor := w.supervisor.feed w.now }
  | .poll =>
    let (supervisor, register) := (w.supervisor.poll w.register w.now).state
    { w with supervisor, register }
  | .wait us => { w with now := w.now + us }

def after (w : Watch) (acts : List WatchdogAct) : Watch :=
  acts.foldl act w

theorem after_append (w : Watch) (acts acts' : List WatchdogAct) :
    w.after (acts ++ acts') = (w.after acts).after acts' :=
  List.foldl_append

end Watch

/-! ## One poll -/

namespace Supervisor

variable {s : Supervisor} {register : ResetRegister} {now last : Nat}

theorem poll_of_unarmed (hlast : s.lastFeed = none) :
    s.poll register now = { value := .disarmed, state := (s, register) } := by
  rw [poll, hlast]

theorem poll_of_expired (hlast : s.lastFeed = some last) (hexpired : s.expired = true) :
    s.poll register now = { value := .expired, state := (s, register) } := by
  simp only [poll, hlast, hexpired, if_true]

theorem poll_of_late (hlast : s.lastFeed = some last) (hexpired : s.expired = false)
    (hlate : s.timeout < now - last) :
    s.poll register now =
      { value := .expired
        state := ({ s with expired := true }, register.record .watchdog)
        log := [expiryLine] } := by
  simp only [poll, hlast, hexpired, if_pos hlate, Bool.false_eq_true, if_false]

theorem poll_of_timely (hlast : s.lastFeed = some last) (hexpired : s.expired = false)
    (htimely : ¬s.timeout < now - last) :
    s.poll register now = { value := .ok, state := (s, register) } := by
  simp only [poll, hlast, hexpired, if_neg htimely, Bool.false_eq_true, if_false]

@[simp] theorem feed_timeout (s : Supervisor) (now : Nat) : (s.feed now).timeout = s.timeout := by
  unfold feed
  split
  · rfl
  · split <;> rfl

@[simp] theorem feed_expired (s : Supervisor) (now : Nat) : (s.feed now).expired = s.expired := by
  unfold feed
  split
  · rfl
  · split <;> rfl

@[simp] theorem feed_armed (s : Supervisor) (now : Nat) :
    (s.feed now).lastFeed.isSome = s.lastFeed.isSome := by
  unfold feed
  split
  · rfl
  · rename_i hlast
    split
    · rfl
    · rw [hlast]
      rfl

theorem feed_lastFeed (hexpired : s.expired = false) :
    (s.feed now).lastFeed = s.lastFeed.map fun _ => now := by
  unfold feed
  split
  · rename_i hlast
    rw [hlast]
    rfl
  · rename_i hlast
    rw [hexpired, hlast]
    rfl

end Supervisor

/-! ## What the acts say -/

/-- What counts for the deadline. -/
structure Deadline where
  now : Nat
  /-- The timeout in microseconds. -/
  timeout : Nat := 0
  /-- When the watchdog was armed or fed last, if it was armed. -/
  since : Option Nat := none

namespace Deadline

def act (d : Deadline) : WatchdogAct → Deadline
  | .arm ms => { d with timeout := ms.toNat * 1000, since := some d.now }
  | .feed => { d with since := d.since.map fun _ => d.now }
  | .poll => d
  | .wait us => { d with now := d.now + us }

/-- The deadline after acts that begin at a time. -/
def after (now : Nat) (acts : List WatchdogAct) : Deadline :=
  acts.foldl act { now }

/-- More than the timeout has passed since the watchdog was armed or fed. -/
def Overdue (d : Deadline) : Prop :=
  ∃ time, d.since = some time ∧ d.timeout < d.now - time

theorem after_concat (now : Nat) (acts : List WatchdogAct) (a : WatchdogAct) :
    after now (acts ++ [a]) = (after now acts).act a := by
  rw [after, List.foldl_append]
  rfl

/-- What is overdue stays overdue while time passes. -/
theorem Overdue.wait {d : Deadline} (h : d.Overdue) (us : Nat) : (d.act (.wait us)).Overdue := by
  obtain ⟨time, hsince, hlate⟩ := h
  refine ⟨time, hsince, ?_⟩
  show d.timeout < d.now + us - time
  omega

/-- What was just fed is not overdue. -/
theorem not_overdue_feed (d : Deadline) : ¬(d.act .feed).Overdue := by
  rintro ⟨time, hsince, hlate⟩
  obtain ⟨_, _, htime⟩ := Option.map_eq_some_iff.mp hsince
  have hnow : d.timeout < d.now - time := hlate
  omega

end Deadline

namespace Watch

/-- A poll since the watchdog was armed came when it was overdue. -/
def Found (now : Nat) (acts : List WatchdogAct) : Prop :=
  ∃ before after, acts = before ++ .poll :: after ∧ (∀ ms, .arm ms ∉ after) ∧
    (Deadline.after now before).Overdue

section Found

variable {now : Nat} {acts : List WatchdogAct}

theorem not_found_nil : ¬Found now [] := by
  rintro ⟨before, after, hacts, _⟩
  simp at hacts

/-- One more act: to arm the watchdog ends what was found, and a poll may find something. -/
theorem found_concat (a : WatchdogAct) :
    Found now (acts ++ [a]) ↔ (∀ ms, a ≠ .arm ms) ∧
      (Found now acts ∨ a = .poll ∧ (Deadline.after now acts).Overdue) := by
  constructor
  · rintro ⟨before, after, hacts, harm, hlate⟩
    rcases List.eq_nil_or_concat after with rfl | ⟨after, b, rfl⟩
    · obtain ⟨rfl, rfl⟩ := List.append_singleton_inj.mp hacts
      exact ⟨nofun, Or.inr ⟨rfl, hlate⟩⟩
    · rw [List.concat_eq_append, ← List.cons_append, ← List.append_assoc] at hacts
      obtain ⟨rfl, rfl⟩ := List.append_singleton_inj.mp hacts
      refine ⟨fun ms heq => harm ms (by simp [heq]), Or.inl ⟨before, after, rfl, ?_, hlate⟩⟩
      exact fun ms hmem => harm ms (by simp [hmem])
  · rintro ⟨harm, ⟨before, after, rfl, hnone, hlate⟩ | ⟨rfl, hlate⟩⟩
    · refine ⟨before, after ++ [a], by simp, fun ms hmem => ?_, hlate⟩
      rcases List.mem_append.mp hmem with hold | hnew
      · exact hnone ms hold
      · exact harm ms (List.mem_singleton.mp hnew).symm
    · exact ⟨acts, [], rfl, fun ms => List.not_mem_nil, hlate⟩

/-- What was found stays found until the watchdog is armed. -/
theorem Found.append (h : Found now acts) {rest : List WatchdogAct} (harm : ∀ ms, .arm ms ∉ rest) :
    Found now (acts ++ rest) := by
  obtain ⟨before, after, rfl, hnone, hlate⟩ := h
  refine ⟨before, after ++ rest, by simp, fun ms hmem => ?_, hlate⟩
  exact (List.mem_append.mp hmem).elim (hnone ms) (harm ms)

/-- Without a poll nothing is found. -/
theorem Found.of_append {rest : List WatchdogAct} (h : Found now (acts ++ rest))
    (hpoll : .poll ∉ rest) : Found now acts := by
  induction rest using List.reverseRecOn with
  | nil => rwa [List.append_nil] at h
  | append_singleton rest a ih =>
    rw [← List.append_assoc, found_concat] at h
    obtain ⟨_, hfound | ⟨rfl, _⟩⟩ := h
    · exact ih hfound fun hmem => hpoll (List.mem_append_left _ hmem)
    · exact absurd (List.mem_append_right _ (List.mem_singleton_self _)) hpoll

end Found

/-! ## The watchdog keeps track -/

/-- A watchdog that is as the acts say. -/
structure Tracks (w : Watch) (d : Deadline) (found : Prop) : Prop where
  now : w.now = d.now
  armed : w.supervisor.lastFeed.isSome = d.since.isSome
  expired : w.supervisor.expired = true ↔ found
  /-- A watchdog that expired stays armed, and its register tells. -/
  latched : found → d.since.isSome = true ∧ w.register.recorded = some .watchdog
  /-- Until then it knows its deadline. -/
  deadline : ¬found → w.supervisor.lastFeed = d.since ∧ w.supervisor.timeout = d.timeout

namespace Tracks

variable {w : Watch} {d : Deadline} {found : Prop}

theorem of_iff {found' : Prop} (h : Tracks w d found) (hiff : found' ↔ found) : Tracks w d found' :=
  propext hiff ▸ h

theorem start (register : ResetRegister) (now : Nat) :
    Tracks { register, now } { now } (Found now []) where
  now := rfl
  armed := rfl
  expired := ⟨nofun, fun h => absurd h not_found_nil⟩
  latched h := absurd h not_found_nil
  deadline _ := ⟨rfl, rfl⟩

/-- What a poll does, in terms of the acts before it. -/
theorem poll_cases (h : Tracks w d found) :
    (found ∧ w.supervisor.poll w.register w.now =
        { value := .expired, state := (w.supervisor, w.register) }) ∨
      (¬found ∧ d.Overdue ∧ w.supervisor.poll w.register w.now =
        { value := .expired
          state := ({ w.supervisor with expired := true }, w.register.record .watchdog)
          log := [Supervisor.expiryLine] }) ∨
      (¬found ∧ ¬d.Overdue ∧ w.supervisor.poll w.register w.now =
        { value := if d.since.isSome then .ok else .disarmed
          state := (w.supervisor, w.register) }) := by
  by_cases hfound : found
  · obtain ⟨last, hlast⟩ : ∃ last, w.supervisor.lastFeed = some last := by
      rw [← Option.isSome_iff_exists, h.armed]
      exact (h.latched hfound).1
    exact Or.inl ⟨hfound, Supervisor.poll_of_expired hlast (h.expired.mpr hfound)⟩
  · have hexpired : w.supervisor.expired = false := Bool.eq_false_iff.mpr (mt h.expired.mp hfound)
    obtain ⟨hlast, htimeout⟩ := h.deadline hfound
    cases hsince : d.since with
    | none =>
      have htimely : ¬d.Overdue := by simp [Deadline.Overdue, hsince]
      exact Or.inr (Or.inr ⟨hfound, htimely, Supervisor.poll_of_unarmed (hlast.trans hsince)⟩)
    | some time =>
      have hoverdue : d.Overdue ↔ w.supervisor.timeout < w.now - time := by
        simp [Deadline.Overdue, hsince, htimeout, h.now]
      by_cases hlate : d.Overdue
      · exact Or.inr (Or.inl ⟨hfound, hlate,
          Supervisor.poll_of_late (hlast.trans hsince) hexpired (hoverdue.mp hlate)⟩)
      · exact Or.inr (Or.inr ⟨hfound, hlate,
          Supervisor.poll_of_timely (hlast.trans hsince) hexpired (mt hoverdue.mpr hlate)⟩)

theorem status_eq_expired_iff (h : Tracks w d found) : w.status = .expired ↔ found ∨ d.Overdue := by
  rw [Watch.status]
  rcases h.poll_cases with ⟨hfound, hpoll⟩ | ⟨_, hlate, hpoll⟩ | ⟨hfound, hlate, hpoll⟩
  · rw [hpoll]
    exact iff_of_true rfl (Or.inl hfound)
  · rw [hpoll]
    exact iff_of_true rfl (Or.inr hlate)
  · rw [hpoll]
    refine iff_of_false ?_ (not_or.mpr ⟨hfound, hlate⟩)
    cases d.since <;> nofun

/-- A poll records the reason if it reports that the watchdog expired, and it changes no register
otherwise. -/
theorem register_poll (h : Tracks w d found) :
    (w.act .poll).register = if w.status = .expired then ⟨some .watchdog⟩ else w.register := by
  rw [Watch.status, Watch.act]
  rcases h.poll_cases with ⟨hfound, hpoll⟩ | ⟨_, _, hpoll⟩ | ⟨_, _, hpoll⟩
  · rw [hpoll]
    exact congrArg ResetRegister.mk (h.latched hfound).2
  · rw [hpoll]
    rfl
  · rw [hpoll]
    cases d.since <;> rfl

theorem arm (h : Tracks w d found) (ms : UInt32) :
    Tracks (w.act (.arm ms)) (d.act (.arm ms)) False where
  now := h.now
  armed := rfl
  expired := iff_of_false Bool.false_ne_true not_false
  latched := False.elim
  deadline _ := ⟨congrArg some h.now, rfl⟩

theorem feed (h : Tracks w d found) : Tracks (w.act .feed) (d.act .feed) found where
  now := h.now
  armed := by
    show (w.supervisor.feed w.now).lastFeed.isSome = (d.since.map fun _ => d.now).isSome
    rw [Supervisor.feed_armed, h.armed, Option.isSome_map]
  expired := by
    show (w.supervisor.feed w.now).expired = true ↔ found
    rw [Supervisor.feed_expired, h.expired]
  latched hfound := ⟨(Option.isSome_map ..).trans (h.latched hfound).1, (h.latched hfound).2⟩
  deadline hfound := by
    obtain ⟨hlast, htimeout⟩ := h.deadline hfound
    have hexpired : w.supervisor.expired = false := Bool.eq_false_iff.mpr (mt h.expired.mp hfound)
    refine ⟨?_, (Supervisor.feed_timeout _ _).trans htimeout⟩
    refine (Supervisor.feed_lastFeed hexpired).trans ?_
    rw [hlast, h.now]
    rfl

theorem poll (h : Tracks w d found) : Tracks (w.act .poll) d (found ∨ d.Overdue) := by
  rw [Watch.act]
  rcases h.poll_cases with ⟨hfound, hpoll⟩ | ⟨hfound, hlate, hpoll⟩ | ⟨hfound, hlate, hpoll⟩
  · rw [hpoll, propext (or_iff_left_of_imp fun _ => hfound)]
    exact h
  · have harmed : d.since.isSome = true := by
      obtain ⟨time, hsince, _⟩ := hlate
      rw [hsince]
      rfl
    rw [hpoll]
    exact
      { now := h.now
        armed := h.armed
        expired := iff_of_true rfl (Or.inr hlate)
        latched := fun _ => ⟨harmed, rfl⟩
        deadline := fun hthen => absurd (Or.inr hlate) hthen }
  · rw [hpoll, propext (or_iff_left hlate)]
    exact h

theorem wait (h : Tracks w d found) (us : Nat) :
    Tracks (w.act (.wait us)) (d.act (.wait us)) found :=
  { h with now := congrArg (· + us) h.now }

end Tracks

/-- A new watchdog is as the acts say, whatever they are. -/
theorem tracks_after (register : ResetRegister) (now : Nat) (acts : List WatchdogAct) :
    Tracks (Watch.after { register, now } acts) (Deadline.after now acts) (Found now acts) := by
  induction acts using List.reverseRecOn with
  | nil => exact Tracks.start register now
  | append_singleton acts a ih =>
    rw [Watch.after_append, Deadline.after_concat]
    have hfound : Found now (acts ++ [a]) ↔ (∀ ms, a ≠ .arm ms) ∧
        (Found now acts ∨ a = .poll ∧ (Deadline.after now acts).Overdue) := found_concat a
    cases a with
    | arm ms => exact (ih.arm ms).of_iff (iff_of_false (fun h => (hfound.mp h).1 ms rfl) not_false)
    | feed => exact ih.feed.of_iff (hfound.trans (by simp))
    | poll => exact ih.poll.of_iff (hfound.trans (by simp))
    | wait us => exact (ih.wait us).of_iff (hfound.trans (by simp))

/-! ## Every poll -/

/-- Every feed comes after a poll. -/
def PolledFirst (acts : List WatchdogAct) : Prop :=
  ∀ before after, acts = before ++ .feed :: after → .poll ∈ before

section Overdue

variable {now : Nat} {acts between : List WatchdogAct}

/-- An overdue watchdog that is polled before it is fed is found out. -/
theorem found_or_overdue_append (hlate : (Deadline.after now acts).Overdue)
    (harm : ∀ ms, .arm ms ∉ between) (hpolled : PolledFirst between) :
    Found now (acts ++ between) ∨ (Deadline.after now (acts ++ between)).Overdue := by
  induction between generalizing acts with
  | nil => exact Or.inr (by rwa [List.append_nil])
  | cons a between ih =>
    have hrest : ∀ ms, .arm ms ∉ between := fun ms hmem => harm ms (List.mem_cons_of_mem a hmem)
    rw [List.append_cons]
    cases a with
    | arm ms => exact absurd List.mem_cons_self (harm ms)
    | feed => exact absurd (hpolled [] between rfl) List.not_mem_nil
    | poll => exact Or.inl (((found_concat _).mpr ⟨by simp, Or.inr ⟨rfl, hlate⟩⟩).append hrest)
    | wait us =>
      refine ih ?_ hrest fun before after heq => ?_
      · rw [Deadline.after_concat]
        exact hlate.wait us
      · simpa using hpolled (.wait us :: before) after (by rw [heq]; rfl)

/-- If it was fed before a poll found it out, it is on time right after that feed. -/
theorem not_found_or_overdue_fed {before : List WatchdogAct} (hfound : ¬Found now acts)
    (hpoll : .poll ∉ before) : ¬(Found now (acts ++ (before ++ [.feed])) ∨
      (Deadline.after now (acts ++ (before ++ [.feed]))).Overdue) := by
  rw [not_or]
  constructor
  · exact fun h => hfound (h.of_append (by simpa using hpoll))
  · rw [← List.append_assoc, Deadline.after_concat]
    exact Deadline.not_overdue_feed _

end Overdue

/-- A poll of a new watchdog reports that it expired if the watchdog is overdue, or was overdue at a
poll since it was armed.  Such a poll leaves the reason in the register, and the other polls do not
touch it.

So from a moment at which the watchdog is overdue, and until it is armed again, all polls report that
it expired just in case it was found out before or is polled before it is fed. -/
theorem expired_iff_found (register : ResetRegister) (now : Nat) (acts : List WatchdogAct) :
    let w := Watch.after { register, now } acts
    (w.status = .expired ↔ Found now acts ∨ (Deadline.after now acts).Overdue) ∧
      (w.act .poll).register = (if w.status = .expired then ⟨some .watchdog⟩ else w.register) ∧
      ∀ between, (Deadline.after now acts).Overdue → (∀ ms, .arm ms ∉ between) →
        ((∀ before after, between = before ++ after → (w.after before).status = .expired) ↔
          Found now acts ∨ PolledFirst between) := by
  intro w
  have hstatus : ∀ rest, (w.after rest).status = .expired ↔
      Found now (acts ++ rest) ∨ (Deadline.after now (acts ++ rest)).Overdue := by
    intro rest
    rw [← Watch.after_append]
    exact (tracks_after register now (acts ++ rest)).status_eq_expired_iff
  refine ⟨(tracks_after register now acts).status_eq_expired_iff,
    (tracks_after register now acts).register_poll, fun between hlate harm => ?_⟩
  constructor
  · intro hall
    refine or_iff_not_imp_left.mpr fun hfound before after hbetween => ?_
    by_contra hpoll
    have hfed := hall (before ++ [.feed]) after (by rw [hbetween, List.append_cons])
    exact not_found_or_overdue_fed hfound hpoll ((hstatus _).mp hfed)
  · rintro hsoon before after rfl
    have harm' : ∀ ms, .arm ms ∉ before := fun ms hmem => harm ms (List.mem_append_left _ hmem)
    refine (hstatus before).mpr ?_
    rcases hsoon with hfound | hpolled
    · exact Or.inl (hfound.append harm')
    · refine found_or_overdue_append hlate harm' fun front back hfront => ?_
      exact hpolled front (back ++ after) (by simp [hfront])

/-- A second without a feed has passed, and the watchdog is polled before it is fed. -/
theorem expired_iff_found_polledFirst :
    let w := Watch.after {} [.arm 1000, .wait 1000001]
    (Deadline.after 0 [.arm 1000, .wait 1000001]).Overdue ∧ PolledFirst [.poll, .feed] ∧
      (w.act .poll).register = ⟨some .watchdog⟩ ∧ (w.after [.poll, .feed]).status = .expired := by
  intro w
  have hlate : (Deadline.after 0 [.arm 1000, .wait 1000001]).Overdue := ⟨0, rfl, by decide⟩
  have hpolled : PolledFirst [.poll, .feed] := by
    rintro (_ | ⟨a, before⟩) after heq
    · cases heq
    · rw [← (List.cons.inj heq).1]
      exact List.mem_cons_self
  obtain ⟨hstatus, hregister, hall⟩ := expired_iff_found {} 0 [.arm 1000, .wait 1000001]
  rw [if_pos (hstatus.mpr (Or.inr hlate))] at hregister
  refine ⟨hlate, hpolled, hregister, ?_⟩
  exact (hall _ hlate (by simp)).mpr (Or.inr hpolled) [.poll, .feed] [] rfl

/-- A feed that comes after the deadline revives a watchdog that was not polled in between. -/
theorem overdue_revived_by_feed :
    (Deadline.after 0 [.arm 1000, .wait 1001000]).Overdue ∧
      (Watch.after {} [.arm 1000, .wait 1001000, .feed]).status = .ok :=
  ⟨⟨0, rfl, by decide⟩, by decide⟩

end Watch

end FanBoard
