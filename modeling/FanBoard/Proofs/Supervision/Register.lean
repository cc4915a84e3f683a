import FanBoard.Proofs.Supervision.Latch

/-!
# The latch of a watchdog and the register

The register outlives the watchdog that records into it.  Each start of the board gives a new watchdog
that was never armed, other parts of the board record reasons too, and the clock may be set back.

* `Since` says of a history that something happened, and that nothing of another kind happened after
  it.  `since_of_step` is the induction on the history, made once: what one event does to a fact about
  the board tells when the fact holds.
* `Armed`, `ArmedFor`, `Latched`, `RefreshedAt` and `Recorded` are what counts in a history.  One lemma
  for each says where the watchdog or the register remembers it.
* `latched_once_and_recorded` is what follows for a poll, for a feed and for the register.
-/

namespace FanBoard

/-! ## Histories -/

/-- An event of one kind happened, and none of another kind after it.  A kind may depend on the events
before. -/
def Since {α : Type} (start stop : List α → α → Prop) (events : List α) : Prop :=
  ∃ n e, events[n]? = some e ∧ start (events.take n) e ∧
    ∀ m e', n < m → events[m]? = some e' → ¬stop (events.take m) e'

section Since

variable {α : Type} {start stop : List α → α → Prop} {events : List α}

theorem not_since_nil : ¬Since start stop [] := by
  rintro ⟨n, e, hn, _⟩
  simp at hn

theorem getElem?_concat_eq_some {n : Nat} {e e' : α} :
    (events ++ [e])[n]? = some e' ↔ events[n]? = some e' ∨ n = events.length ∧ e = e' := by
  by_cases h : n < events.length
  · rw [List.getElem?_append_left h]
    exact (or_iff_left fun hlast => Nat.ne_of_lt h hlast.1).symm
  · have hnone : events[n]? = none := List.getElem?_eq_none (Nat.le_of_not_lt h)
    have hfirst : n - events.length = 0 ↔ n = events.length := by omega
    rw [List.getElem?_append_right (Nat.le_of_not_lt h), List.getElem?_singleton, hnone]
    simp [hfirst]

theorem take_concat_of_getElem? {n : Nat} {e e' : α} (h : events[n]? = some e') :
    (events ++ [e]).take n = events.take n :=
  List.take_append_of_le_length (Nat.le_of_lt (List.getElem?_eq_some_iff.mp h).1)

theorem since_concat (e : α) :
    Since start stop (events ++ [e]) ↔
      start events e ∨ ¬stop events e ∧ Since start stop events := by
  have hlast : (events ++ [e])[events.length]? = some e := List.getElem?_concat_length
  constructor
  · rintro ⟨n, e', hn, hstart, hnone⟩
    rcases getElem?_concat_eq_some.mp hn with hold | ⟨rfl, rfl⟩
    · -- it started earlier, so the last event did not stop it
      rw [take_concat_of_getElem? hold] at hstart
      have hlt : n < events.length := (List.getElem?_eq_some_iff.mp hold).1
      refine Or.inr ⟨by simpa using hnone _ e hlt hlast, n, e', hold, hstart, ?_⟩
      intro m d hm hd
      rw [← take_concat_of_getElem? (e := e) hd]
      exact hnone m d hm (getElem?_concat_eq_some.mpr (Or.inl hd))
    · exact Or.inl (by simpa using hstart)
  · rintro (hstart | ⟨hstop, n, e', hn, hstart, hnone⟩)
    · refine ⟨events.length, e, hlast, by simpa using hstart, fun m d hm hd => ?_⟩
      have hlt := (List.getElem?_eq_some_iff.mp hd).1
      rw [List.length_append, List.length_singleton] at hlt
      omega
    · refine ⟨n, e', getElem?_concat_eq_some.mpr (Or.inl hn), ?_, fun m d hm hd => ?_⟩
      · rwa [take_concat_of_getElem? hn]
      · rcases getElem?_concat_eq_some.mp hd with hold | ⟨rfl, rfl⟩
        · rw [take_concat_of_getElem? hold]
          exact hnone m d hm hold
        · simpa using hstop

end Since

/-! ## A board that starts over -/

/-- What happens to a watchdog, to the clock that it reads and to the register. -/
inductive WatchEvent where
  | arm (ms : UInt32)
  | feed
  | poll
  /-- The clock is set, forward or back. -/
  | clock (now : Nat)
  /-- A reason is recorded by something else than the watchdog. -/
  | record (reason : ResetReason)
  /-- The recorded reason is taken. -/
  | take
  /-- The board starts over with a new watchdog. -/
  | restart
deriving DecidableEq

namespace Watch

def meet (w : Watch) : WatchEvent → Watch
  | .arm ms => w.act (.arm ms)
  | .feed => w.act .feed
  | .poll => w.act .poll
  | .clock now => { w with now }
  | .record reason => { w with register := w.register.record reason }
  | .take => { w with register := w.register.take.2 }
  | .restart => { w with supervisor := {} }

/-- A new watchdog with an empty register after events. -/
def met (events : List WatchEvent) : Watch :=
  events.foldl meet {}

theorem met_concat (events : List WatchEvent) (e : WatchEvent) :
    met (events ++ [e]) = (met events).meet e := by
  simp [met]

/-- Where each event starts or stops a fact as the kinds of events say, the fact is told by the
history. -/
theorem since_of_step {start stop : List WatchEvent → WatchEvent → Prop} {P : Watch → Prop}
    (hnew : ¬P {})
    (hstep : ∀ events e, P ((met events).meet e) ↔ start events e ∨ ¬stop events e ∧ P (met events))
    (events : List WatchEvent) : P (met events) ↔ Since start stop events := by
  induction events using List.reverseRecOn with
  | nil => exact iff_of_false hnew not_since_nil
  | append_singleton events e ih => rw [met_concat, hstep, since_concat, ih]

end Watch

/-! ## One poll and what it leaves -/

namespace Supervisor

section Poll

variable (s : Supervisor) (register : ResetRegister) (now : Nat)

theorem poll_cases :
    (s.lastFeed = none ∧
        s.poll register now = { value := .disarmed, state := (s, register) }) ∨
      ∃ last, s.lastFeed = some last ∧
        ((s.expired = true ∧
            s.poll register now = { value := .expired, state := (s, register) }) ∨
          (s.expired = false ∧ s.timeout < now - last ∧
            s.poll register now =
              { value := .expired
                state := ({ s with expired := true }, register.record .watchdog)
                log := [expiryLine] }) ∨
          (s.expired = false ∧ ¬s.timeout < now - last ∧
            s.poll register now = { value := .ok, state := (s, register) })) := by
  rcases Option.eq_none_or_eq_some s.lastFeed with hlast | ⟨last, hlast⟩
  · exact Or.inl ⟨hlast, poll_of_unarmed hlast⟩
  · refine Or.inr ⟨last, hlast, ?_⟩
    by_cases hexpired : s.expired = true
    · exact Or.inl ⟨hexpired, poll_of_expired hlast hexpired⟩
    · rw [Bool.not_eq_true] at hexpired
      by_cases hlate : s.timeout < now - last
      · exact Or.inr (Or.inl ⟨hexpired, hlate, poll_of_late hlast hexpired hlate⟩)
      · exact Or.inr (Or.inr ⟨hexpired, hlate, poll_of_timely hlast hexpired hlate⟩)

theorem poll_value_eq_disarmed_iff :
    (s.poll register now).value = .disarmed ↔ ¬s.lastFeed.isSome = true := by
  rcases s.poll_cases register now with ⟨hlast, hpoll⟩ |
    ⟨last, hlast, ⟨_, hpoll⟩ | ⟨_, _, hpoll⟩ | ⟨_, _, hpoll⟩⟩ <;>
  simp [hpoll, hlast]

theorem poll_value_eq_expired_iff :
    (s.poll register now).value = .expired ↔
      ∃ last, s.lastFeed = some last ∧ (s.expired = true ∨ s.timeout < now - last) := by
  rcases s.poll_cases register now with ⟨hlast, hpoll⟩ |
    ⟨last, hlast, ⟨hexpired, hpoll⟩ | ⟨hexpired, hlate, hpoll⟩ | ⟨hexpired, htimely, hpoll⟩⟩ <;>
  simp [*]

/-- A poll moves no deadline, and one that reports that the watchdog expired latches it. -/
theorem poll_supervisor : (s.poll register now).state.1 =
    { s with expired := s.expired || (s.poll register now).value == .expired } := by
  rcases s.poll_cases register now with ⟨hlast, hpoll⟩ |
    ⟨last, hlast, ⟨hexpired, hpoll⟩ | ⟨hexpired, hlate, hpoll⟩ | ⟨hexpired, htimely, hpoll⟩⟩ <;>
  rw [hpoll] <;> cases s <;> simp_all

/-- A poll records only what it latches. -/
theorem poll_register : (s.poll register now).state.2 =
    if (s.poll register now).value = .expired ∧ ¬s.expired = true then ⟨some .watchdog⟩
    else register := by
  rcases s.poll_cases register now with ⟨hlast, hpoll⟩ |
    ⟨last, hlast, ⟨hexpired, hpoll⟩ | ⟨hexpired, hlate, hpoll⟩ | ⟨hexpired, htimely, hpoll⟩⟩ <;>
  simp [*, ResetRegister.record]

theorem feed_eq : s.feed now =
    if s.lastFeed.isSome = true ∧ ¬s.expired = true then { s with lastFeed := some now } else s := by
  unfold feed
  split
  · rename_i hlast
    simp [hlast]
  · rename_i hlast
    by_cases hexpired : s.expired = true <;> simp [hlast, hexpired]

end Poll

end Supervisor

namespace Watch

theorem meet_poll_supervisor (w : Watch) : (w.meet .poll).supervisor =
    { w.supervisor with expired := w.supervisor.expired || w.status == .expired } :=
  w.supervisor.poll_supervisor w.register w.now

theorem meet_poll_register (w : Watch) : (w.meet .poll).register =
    if w.status = .expired ∧ ¬w.supervisor.expired = true then ⟨some .watchdog⟩ else w.register :=
  w.supervisor.poll_register w.register w.now

theorem meet_feed_supervisor (w : Watch) : (w.meet .feed).supervisor =
    if w.supervisor.lastFeed.isSome = true ∧ ¬w.supervisor.expired = true then
      { w.supervisor with lastFeed := some w.now }
    else w.supervisor :=
  w.supervisor.feed_eq w.now

end Watch

/-! ## What counts in a history -/

namespace WatchEvent

/-- The event begins the watch anew. -/
def Renews (e : WatchEvent) : Prop :=
  e = .restart ∨ ∃ ms, e = .arm ms

end WatchEvent

namespace Watch

/-- The watchdog was armed since the board started. -/
def Armed : List WatchEvent → Prop :=
  Since (fun _ e => ∃ ms, e = .arm ms) fun _ e => e = .restart

/-- The watchdog was armed since the board started, the last time for so many milliseconds. -/
def ArmedFor (ms : UInt32) : List WatchEvent → Prop :=
  Since (fun _ e => e = .arm ms) fun _ e => e.Renews

/-- A poll reported that the watchdog expired, and it was not armed since, nor did the board start. -/
def Latched : List WatchEvent → Prop :=
  Since (fun before e => e = .poll ∧ (met before).status = .expired) fun _ e => e.Renews

/-- The event moves the deadline: the watchdog is armed, or it is fed while it is armed and not
latched. -/
def Refreshes (before : List WatchEvent) (e : WatchEvent) : Prop :=
  (∃ ms, e = .arm ms) ∨ e = .feed ∧ Armed before ∧ ¬Latched before

/-- The last event since the board started that moved the deadline came at a time. -/
def RefreshedAt (time : Nat) : List WatchEvent → Prop :=
  Since (fun before e => Refreshes before e ∧ (met before).now = time)
    fun before e => e = .restart ∨ Refreshes before e

/-- A poll after these events is the first to report that the watchdog expired. -/
def FirstExpiry (before : List WatchEvent) : Prop :=
  (met before).status = .expired ∧ ¬Latched before

/-- The event records a reason, by the watchdog or by something else. -/
def Records (reason : ResetReason) (before : List WatchEvent) (e : WatchEvent) : Prop :=
  e = .record reason ∨ reason = .watchdog ∧ e = .poll ∧ FirstExpiry before

/-- The last reason that was recorded, and it was not taken since. -/
def Recorded (reason : ResetReason) : List WatchEvent → Prop :=
  Since (Records reason) fun before e => e = .take ∨ ∃ reason', Records reason' before e

/-! ## What the watchdog remembers -/

theorem armed_iff (events : List WatchEvent) :
    (met events).supervisor.lastFeed.isSome = true ↔ Armed events := by
  refine since_of_step (P := fun w => w.supervisor.lastFeed.isSome = true) nofun ?_ events
  intro events e
  cases e with
  | poll => simp [meet_poll_supervisor]
  | feed =>
    rw [meet_feed_supervisor]
    split <;> simp [*]
  | _ => simp [meet, act, Supervisor.arm]

theorem armedFor_iff (ms : UInt32) (events : List WatchEvent) :
    (met events).supervisor.lastFeed.isSome = true ∧
      (met events).supervisor.timeout = ms.toNat * 1000 ↔ ArmedFor ms events := by
  refine since_of_step (P := fun w => w.supervisor.lastFeed.isSome = true ∧
    w.supervisor.timeout = ms.toNat * 1000) nofun ?_ events
  intro events e
  cases e with
  | poll => simp [meet_poll_supervisor, WatchEvent.Renews]
  | feed =>
    rw [meet_feed_supervisor]
    split <;> simp [*, WatchEvent.Renews]
  | arm ms' =>
    have hms : ms'.toNat * 1000 = ms.toNat * 1000 ↔ ms' = ms := by
      rw [← UInt32.toNat_inj]
      omega
    simp [meet, act, Supervisor.arm, WatchEvent.Renews, hms]
  | _ => simp [meet, WatchEvent.Renews]

theorem latched_iff (events : List WatchEvent) :
    (met events).supervisor.expired = true ↔ Latched events := by
  refine since_of_step (P := fun w => w.supervisor.expired = true) nofun ?_ events
  intro events e
  cases e with
  | poll => simp [meet_poll_supervisor, WatchEvent.Renews, or_comm]
  | feed =>
    rw [meet_feed_supervisor]
    split <;> simp [*, WatchEvent.Renews]
  | _ => simp [meet, act, Supervisor.arm, WatchEvent.Renews]

theorem refreshedAt_iff (time : Nat) (events : List WatchEvent) :
    (met events).supervisor.lastFeed = some time ↔ RefreshedAt time events := by
  refine since_of_step (P := fun w => w.supervisor.lastFeed = some time) nofun ?_ events
  intro events e
  cases e with
  | poll => simp [meet_poll_supervisor, Refreshes]
  | feed =>
    have hmoves : Refreshes events .feed ↔ (met events).supervisor.lastFeed.isSome = true ∧
        ¬(met events).supervisor.expired = true := by
      simp [Refreshes, armed_iff, latched_iff]
    rw [meet_feed_supervisor]
    by_cases h : Refreshes events .feed
    · rw [if_pos (hmoves.mp h)]
      simp [h]
    · rw [if_neg (mt hmoves.mpr h)]
      simp [h]
  | _ => simp [meet, act, Supervisor.arm, Refreshes]

theorem recorded_iff (reason : ResetReason) (events : List WatchEvent) :
    (met events).register.recorded = some reason ↔ Recorded reason events := by
  refine since_of_step (P := fun w => w.register.recorded = some reason) nofun ?_ events
  intro events e
  cases e with
  | poll =>
    have hfirst : FirstExpiry events ↔
        (met events).status = .expired ∧ ¬(met events).supervisor.expired = true := by
      rw [FirstExpiry, latched_iff]
    rw [meet_poll_register]
    by_cases h : FirstExpiry events
    · rw [if_pos (hfirst.mp h)]
      simp [Records, h, eq_comm]
    · rw [if_neg (mt hfirst.mpr h)]
      simp [Records, h]
  | _ => simp [meet, act, Supervisor.arm, ResetRegister.record, ResetRegister.take, Records]

instance (events : List WatchEvent) : Decidable (Latched events) :=
  decidable_of_iff _ (latched_iff events)

instance (events : List WatchEvent) : Decidable (FirstExpiry events) :=
  inferInstanceAs (Decidable ((met events).status = .expired ∧ ¬Latched events))

instance (reason : ResetReason) (events : List WatchEvent) : Decidable (Recorded reason events) :=
  decidable_of_iff _ (recorded_iff reason events)

/-- A poll of the present watch was the first to report that it expired. -/
theorem latched_iff_firstExpiry (events : List WatchEvent) :
    Latched events ↔
      Since (fun before e => e = .poll ∧ FirstExpiry before) (fun _ e => e.Renews) events := by
  rw [← latched_iff]
  refine since_of_step (P := fun w => w.supervisor.expired = true) nofun ?_ events
  intro events e
  rw [← met_concat, latched_iff, latched_iff, Latched, since_concat, ← Latched]
  cases e with
  | poll =>
    -- a poll that reports so latches the watchdog unless it found it latched
    by_cases h : Latched events <;> simp [FirstExpiry, WatchEvent.Renews, h]
  | _ => simp

/-- The watchdog wrote the register at a poll, and neither was it armed since nor did the board
start. -/
def WroteAt (events : List WatchEvent) (n : Nat) : Prop :=
  events[n]? = some .poll ∧ FirstExpiry (events.take n) ∧
    ∀ m e, n < m → events[m]? = some e → ¬e.Renews

theorem WroteAt.latched_take {events : List WatchEvent} {n n' : Nat} (h : WroteAt events n)
    (hlt : n < n') : Latched (events.take n') := by
  obtain ⟨hpoll, hfirst, hnone⟩ := h
  refine ⟨n, .poll, ?_, ⟨rfl, ?_⟩, fun m e hm he => ?_⟩
  · rwa [List.getElem?_take_of_lt hlt]
  · rw [List.take_take, Nat.min_eq_left (Nat.le_of_lt hlt)]
    exact hfirst.1
  · rw [List.getElem?_take] at he
    split at he
    · exact hnone m e hm he
    · cases he

theorem WroteAt.unique {events : List WatchEvent} {n n' : Nat} (h : WroteAt events n)
    (h' : WroteAt events n') : n = n' := by
  rcases Nat.lt_trichotomy n n' with hlt | heq | hlt
  · exact absurd (h.latched_take hlt) h'.2.1.2
  · exact heq
  · exact absurd (h'.latched_take hlt) h.2.1.2

theorem exists_wroteAt_iff (events : List WatchEvent) : (∃ n, WroteAt events n) ↔ Latched events := by
  rw [latched_iff_firstExpiry]
  constructor
  · rintro ⟨n, hpoll, hfirst, hnone⟩
    exact ⟨n, .poll, hpoll, ⟨rfl, hfirst⟩, hnone⟩
  · rintro ⟨n, e, he, ⟨rfl, hfirst⟩, hnone⟩
    exact ⟨n, he, hfirst, hnone⟩

/-! ## Polls, feeds and the register -/

theorem status_eq_disarmed_iff (w : Watch) :
    w.status = .disarmed ↔ ¬w.supervisor.lastFeed.isSome = true :=
  w.supervisor.poll_value_eq_disarmed_iff w.register w.now

theorem status_eq_expired_iff (w : Watch) :
    w.status = .expired ↔ ∃ last, w.supervisor.lastFeed = some last ∧
      (w.supervisor.expired = true ∨ w.supervisor.timeout < w.now - last) :=
  w.supervisor.poll_value_eq_expired_iff w.register w.now

theorem Armed.exists_armedFor {events : List WatchEvent} (h : Armed events) :
    ∃ ms, ArmedFor ms events := by
  induction events using List.reverseRecOn with
  | nil => exact absurd h not_since_nil
  | append_singleton events e ih =>
    rcases (since_concat e).mp h with ⟨ms, rfl⟩ | ⟨hrestart, harmed⟩
    · exact ⟨ms, (since_concat _).mpr (Or.inl rfl)⟩
    · by_cases harm : ∃ ms, e = .arm ms
      · obtain ⟨ms, rfl⟩ := harm
        exact ⟨ms, (since_concat _).mpr (Or.inl rfl)⟩
      · obtain ⟨ms, hms⟩ := ih harmed
        exact ⟨ms, (since_concat _).mpr (Or.inr ⟨not_or.mpr ⟨hrestart, harm⟩, hms⟩)⟩

/-- A poll that finds no latch compares the time since the deadline was moved with the timeout. -/
theorem status_eq_expired_iff_of_not_latched {events : List WatchEvent} (h : ¬Latched events) :
    (met events).status = .expired ↔ ∃ ms time, ArmedFor ms events ∧ RefreshedAt time events ∧
      ms.toNat * 1000 < (met events).now - time := by
  rw [← latched_iff] at h
  rw [status_eq_expired_iff]
  constructor
  · rintro ⟨time, hlast, hlatched | hlate⟩
    · exact absurd hlatched h
    · obtain ⟨ms, hms⟩ := ((armed_iff events).mp (by rw [hlast]; rfl)).exists_armedFor
      rw [((armedFor_iff ms events).mpr hms).2] at hlate
      exact ⟨ms, time, hms, (refreshedAt_iff time events).mp hlast, hlate⟩
  · rintro ⟨ms, time, hms, htime, hlate⟩
    rw [← ((armedFor_iff ms events).mpr hms).2] at hlate
    exact ⟨time, (refreshedAt_iff time events).mpr htime, Or.inr hlate⟩

/-- An expired watchdog is armed. -/
theorem Latched.armed {events : List WatchEvent} (h : Latched events) : Armed events := by
  induction events using List.reverseRecOn with
  | nil => exact absurd h not_since_nil
  | append_singleton events e ih =>
    rcases (since_concat e).mp h with ⟨rfl, hexpired⟩ | ⟨hrenews, hlatched⟩
    · obtain ⟨last, hlast, _⟩ := (status_eq_expired_iff _).mp hexpired
      refine (since_concat _).mpr (Or.inr ⟨nofun, (armed_iff events).mp ?_⟩)
      rw [hlast]
      rfl
    · exact (since_concat _).mpr (Or.inr ⟨fun hrestart => hrenews (Or.inl hrestart), ih hlatched⟩)

theorem status_of_latched {events : List WatchEvent} (h : Latched events) :
    (met events).status = .expired := by
  obtain ⟨last, hlast⟩ := Option.isSome_iff_exists.mp ((armed_iff events).mpr h.armed)
  exact (status_eq_expired_iff _).mpr ⟨last, hlast, Or.inl ((latched_iff events).mpr h)⟩

theorem meet_feed_of_latched {events : List WatchEvent} (h : Latched events) :
    (met events).meet .feed = met events := by
  have hsame : ((met events).meet .feed).supervisor = (met events).supervisor := by
    rw [meet_feed_supervisor]
    exact if_neg fun hmoves => hmoves.2 ((latched_iff events).mpr h)
  show { met events with supervisor := ((met events).meet .feed).supervisor } = met events
  rw [hsame]

/-- Whatever the register holds, the watchdog writes it at the first poll that reports that it
expired. -/
theorem meet_register (events : List WatchEvent) (register : ResetRegister) (e : WatchEvent)
    (hrecord : ∀ reason, e ≠ .record reason) (htake : e ≠ .take) :
    ({ met events with register }.meet e).register =
      if e = .poll ∧ FirstExpiry events then ⟨some .watchdog⟩ else register := by
  cases e with
  | poll =>
    have hfirst : ({ met events with register } : Watch).status = .expired ∧
        ¬(met events).supervisor.expired = true ↔ FirstExpiry events := by
      rw [FirstExpiry, latched_iff, status_eq_expired_iff, status_eq_expired_iff]
    rw [meet_poll_register]
    exact if_congr (hfirst.trans (and_iff_right rfl).symm) rfl rfl
  | record reason => exact absurd rfl (hrecord reason)
  | take => exact absurd rfl htake
  | _ => rfl

/-- After any history, a poll reports that the watchdog is disarmed if it was not armed since the board
started.  If no poll reported yet that it expired, a poll reports so when more than the timeout has
passed since it was armed or since a feed that it heeded.  From then on all polls report so and it
heeds no feed, until it is armed again.

The watchdog writes the register at the first of these polls only, whatever the register holds.  What
is taken from the register is the last reason recorded since it was taken before, also if the board
started over in between. -/
theorem latched_once_and_recorded (events : List WatchEvent) :
    let w := met events
    (w.status = .disarmed ↔ ¬Armed events) ∧
      (¬Latched events → (w.status = .expired ↔ ∃ ms time, ArmedFor ms events ∧
        RefreshedAt time events ∧ ms.toNat * 1000 < w.now - time)) ∧
      (Latched events → w.status = .expired ∧ w.meet .feed = w ∧ ∃! n, WroteAt events n) ∧
      (∀ register e, (∀ reason, e ≠ .record reason) → e ≠ .take →
        ({ w with register }.meet e).register =
          if e = .poll ∧ FirstExpiry events then ⟨some .watchdog⟩ else register) ∧
      ∀ reason, w.register.take.1 = some reason ↔ Recorded reason events := by
  intro w
  refine ⟨?disarmed, status_eq_expired_iff_of_not_latched, ?latched, meet_register events, ?taken⟩
  case disarmed => rw [status_eq_disarmed_iff, armed_iff]
  case latched =>
    intro h
    obtain ⟨n, hn⟩ := (exists_wroteAt_iff events).mpr h
    exact ⟨status_of_latched h, meet_feed_of_latched h, n, hn, fun n' hn' => hn'.unique hn⟩
  case taken => exact fun reason => recorded_iff reason events

/-- The watchdog is armed for a millisecond and fed a little too late, and then a millisecond and a
half passes. -/
def fedLate : List WatchEvent :=
  [.clock 7000, .arm 1, .clock 8001, .feed, .clock 9500]

/-- A poll then is the first to report that it expired.  The latch outlasts a clock set back, and the
reason is found by the next start. -/
theorem latched_once_and_recorded_fedLate :
    ¬Latched fedLate ∧ (∃ ms time, ArmedFor ms fedLate ∧ RefreshedAt time fedLate ∧
        ms.toNat * 1000 < (met fedLate).now - time) ∧
      Latched (fedLate ++ [.poll, .clock 0]) ∧
      (met (fedLate ++ [.poll, .clock 0])).status = .expired ∧
      Recorded .watchdog (fedLate ++ [.poll, .clock 0, .restart]) := by
  have hfresh : ¬Latched fedLate := by decide
  have hexpired : (met fedLate).status = .expired := by decide
  have hlatched : Latched (fedLate ++ [.poll, .clock 0]) := by decide
  exact ⟨hfresh, ((latched_once_and_recorded fedLate).2.1 hfresh).mp hexpired, hlatched,
    ((latched_once_and_recorded _).2.2.1 hlatched).1,
    ((latched_once_and_recorded _).2.2.2.2 .watchdog).mp (by decide)⟩

end Watch

end FanBoard
