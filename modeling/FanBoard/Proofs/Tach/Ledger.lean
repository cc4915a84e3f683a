import FanBoard.Proofs.TwoCores.Windows
import Mathlib.Data.UInt

/-!
# The pulses of a window

What a meter does follows from its history: the pulses that were recorded, the polls, and the
windows that a restart opened anew.  Pulses may come between any two of these, and so also while a
restart goes on, since that opens the windows of the fans in turn.

* `Opens` says which moves open the window of a fan: a restart, the first visit, and every reading.
* `Window` is the window of a fan in a history: when it was opened, and what has come since.
* `meterAfter_of_opens` and `meterAfter_of_not_opens` are one move.  By induction `Window.meter`
  says that the counter of the fan holds the edges of its window, in 32 bits.
* `reading_eq_some_iff` says when a poll gives a reading, and which.
-/

namespace FanBoard.PulseMeter

/-! ## Histories -/

/-- What can happen to a meter.  A restart opens the windows of all fans in turn. -/
inductive Move where
  | pulses (p : Pulses)
  | poll (now : Nat)
  | reopen (now : Nat) (channel : Fin fanCount)

/-- The meter after a move. -/
def move (m : PulseMeter) : Move → PulseMeter
  | .pulses p => m.record p.channel p.count
  | .poll now => (m.poll now).2
  | .reopen now channel => m.reopen now channel

/-- A meter with windows of `ms` milliseconds after a history. -/
def meterAfter (ms : UInt32) (h : List Move) : PulseMeter :=
  h.foldl move (ofMillis ms)

theorem meterAfter_concat (ms : UInt32) (h : List Move) (m : Move) :
    meterAfter ms (h ++ [m]) = (meterAfter ms h).move m :=
  List.foldl_concat ..

/-- A restart is one move for each fan. -/
theorem restart_eq (ms : UInt32) (h : List Move) (now : Nat) :
    (meterAfter ms h).restart now =
      meterAfter ms (h ++ (List.finRange fanCount).map (.reopen now)) := by
  simp only [meterAfter, List.foldl_append, List.foldl_map]
  rfl

def Move.isPoll : Move → Bool
  | .poll _ => true
  | .pulses _ | .reopen .. => false

/-- The number of polls in a history. -/
def polls (h : List Move) : Nat :=
  h.countP Move.isPoll

/-- The fan that the next poll visits. -/
def visited (h : List Move) : Fin fanCount :=
  ⟨polls h % fanCount, Nat.mod_lt _ (by decide)⟩

section

variable (h : List Move)

theorem polls_concat (m : Move) : polls (h ++ [m]) = polls h + if m.isPoll then 1 else 0 := by
  simp [polls, List.countP_append, List.countP_singleton]

theorem visited_poll (now : Nat) : visited (h ++ [.poll now]) = visited h + 1 := by
  refine Fin.ext ?_
  simp [visited, polls_concat, Move.isPoll, Fin.val_add]

/-- Only a poll lets the turn go on. -/
theorem visited_of_not_poll {m : Move} (hm : m.isPoll = false) :
    visited (h ++ [m]) = visited h := by
  refine Fin.ext ?_
  simp [visited, polls_concat, hm]

end

/-- The edges that a move records for a fan. -/
def Move.edges (c : Fin fanCount) : Move → Nat
  | .pulses p => if p.channel = c.val then p.count.toNat else 0
  | .poll _ | .reopen .. => 0

/-- The edges of a fan in a history. -/
def edges (c : Fin fanCount) (h : List Move) : Nat :=
  (h.map (Move.edges c)).sum

theorem edges_concat (c : Fin fanCount) (h : List Move) (m : Move) :
    edges c (h ++ [m]) = edges c h + m.edges c := by
  simp [edges]

/-- What a poll gives after a history. -/
def reading (ms : UInt32) (h : List Move) (now : Nat) : Option TachReading :=
  ((meterAfter ms h).poll now).1

/-! ## Windows -/

/-- A poll has visited the fan, or a restart has opened its window. -/
def Begun (c : Fin fanCount) (h : List Move) : Prop :=
  c.val < polls h ∨ ∃ now, .reopen now c ∈ h

section

variable {c : Fin fanCount} {h : List Move}

theorem begun_pulses (p : Pulses) : Begun c (h ++ [.pulses p]) ↔ Begun c h := by
  simp [Begun, polls_concat, Move.isPoll]

theorem begun_reopen (now : Nat) (channel : Fin fanCount) :
    Begun c (h ++ [.reopen now channel]) ↔ Begun c h ∨ channel = c := by
  simp [Begun, polls_concat, Move.isPoll, exists_or, or_assoc, eq_comm]

theorem begun_poll (now : Nat) : Begun c (h ++ [.poll now]) ↔ Begun c h ∨ visited h = c := by
  have hmem : (∃ τ, .reopen τ c ∈ h ++ [.poll now]) ↔ ∃ τ, .reopen τ c ∈ h := by simp
  have hpolls : polls (h ++ [.poll now]) = polls h + 1 := polls_concat h _
  rw [Begun, hmem, hpolls, Begun]
  constructor
  · rintro (hturn | hopened)
    · rcases Nat.lt_succ_iff_lt_or_eq.mp hturn with hearlier | heq
      · exact Or.inl (Or.inl hearlier)
      · exact Or.inr (Fin.ext ((Nat.mod_eq_of_lt (heq ▸ c.isLt)).trans heq.symm))
    · exact Or.inl (Or.inr hopened)
  · rintro ((hearlier | hopened) | hvisited)
    · exact Or.inl (Nat.lt_succ_of_lt hearlier)
    · exact Or.inr hopened
    · -- Visiting `c` takes the turn of `c` or a later one.
      exact Or.inl (Nat.lt_succ_of_le (hvisited ▸ Nat.mod_le (polls h) fanCount))

end

/-- After a history a move opens the window of a fan at a time. -/
def Opens (ms : UInt32) (c : Fin fanCount) (h : List Move) (opened : Nat) : Move → Prop
  | .pulses _ => False
  | .poll now => now = opened ∧ visited h = c ∧ ((reading ms h now).isSome ∨ ¬Begun c h)
  | .reopen now channel => now = opened ∧ channel = c

/-- The window of a fan after a history: it was opened at a time, and no move since then has opened
it again. -/
structure Window (ms : UInt32) (c : Fin fanCount) (h : List Move) (opened : Nat)
    (since : List Move) : Prop where
  opens : ∃ before m, h = before ++ m :: since ∧ Opens ms c before opened m
  kept : ∀ before m after, h = before ++ m :: after → after.length < since.length →
    ∀ later, ¬Opens ms c before later m

section

variable {ms : UInt32} {c : Fin fanCount} {h since : List Move} {opened : Nat} {m : Move}

/-- A move of a history is its last one or comes before. -/
theorem split_concat {before after : List Move} {m' : Move}
    (hsplit : h ++ [m] = before ++ m' :: after) :
    before = h ∧ m' = m ∧ after = [] ∨
      ∃ earlier, after = earlier ++ [m] ∧ h = before ++ m' :: earlier := by
  rcases List.eq_nil_or_concat' after with rfl | ⟨earlier, last, rfl⟩
  · obtain ⟨rfl, rfl⟩ := List.append_singleton_inj.mp hsplit
    exact Or.inl ⟨rfl, rfl, rfl⟩
  · have hparts : h ++ [m] = (before ++ m' :: earlier) ++ [last] := by rw [hsplit]; simp
    obtain ⟨hearlier, rfl⟩ := List.append_singleton_inj.mp hparts
    exact Or.inr ⟨earlier, rfl, hearlier⟩

theorem window_of_opens (hopens : Opens ms c h opened m) : Window ms c (h ++ [m]) opened [] where
  opens := ⟨h, m, rfl, hopens⟩
  kept := fun _ _ _ _ hlater => absurd hlater (Nat.not_lt_zero _)

theorem Window.concat (hwindow : Window ms c h opened since)
    (hkept : ∀ later, ¬Opens ms c h later m) : Window ms c (h ++ [m]) opened (since ++ [m]) where
  opens := by
    obtain ⟨before, first, rfl, hopens⟩ := hwindow.opens
    exact ⟨before, first, by simp, hopens⟩
  kept := by
    intro before m' after hsplit hlater
    rcases split_concat hsplit with ⟨rfl, rfl, -⟩ | ⟨earlier, rfl, hearlier⟩
    · exact hkept
    · exact hwindow.kept before m' earlier hearlier (by simpa using hlater)

/-- The last move has opened the window or has left it open. -/
theorem Window.of_concat (hwindow : Window ms c (h ++ [m]) opened since) :
    Opens ms c h opened m ∧ since = [] ∨
      ∃ earlier, since = earlier ++ [m] ∧ Window ms c h opened earlier ∧
        ∀ later, ¬Opens ms c h later m := by
  obtain ⟨before, first, hsplit, hopens⟩ := hwindow.opens
  rcases split_concat hsplit with ⟨rfl, rfl, hnil⟩ | ⟨earlier, rfl, hearlier⟩
  · exact Or.inl ⟨hopens, hnil⟩
  · refine Or.inr ⟨earlier, rfl, ⟨⟨before, first, hearlier, hopens⟩, ?_⟩,
      hwindow.kept h m [] rfl (by simp)⟩
    intro before' m' after hsplit' hlater
    exact hwindow.kept before' m' (after ++ [m]) (by rw [hsplit']; simp) (by simpa using hlater)

end

/-! ## One poll -/

section

variable {m : PulseMeter} {now start : Nat}

theorem poll_of_none (hopened : m.opened.get m.cursor = none) :
    m.poll now = (none, { m with cursor := m.cursor + 1 }.reopen now m.cursor) := by
  simp only [poll, visit, hopened]

theorem poll_of_short (hopened : m.opened.get m.cursor = some start)
    (hshort : now - start < m.window) : m.poll now = (none, { m with cursor := m.cursor + 1 }) := by
  simp only [poll, visit, hopened, if_pos hshort]

theorem poll_of_long (hopened : m.opened.get m.cursor = some start)
    (hlong : m.window ≤ now - start) :
    m.poll now = (some ⟨m.cursor, frequency (m.pulses.get m.cursor) (now - start)⟩,
      { m with cursor := m.cursor + 1 }.reopen now m.cursor) := by
  simp only [poll, visit, hopened, if_neg (Nat.not_lt.mpr hlong)]

theorem poll_cursor (m : PulseMeter) (now : Nat) : (m.poll now).2.cursor = m.cursor + 1 := by
  rcases m.poll_cases now with hpoll | hpoll | ⟨start, _, _, hpoll⟩ <;> rw [hpoll]
  · rw [reopen_eq]
  · rw [reopen_eq]

/-- A poll leaves the fans alone that it does not visit. -/
theorem poll_get_of_ne (m : PulseMeter) (now : Nat) {c : Fin fanCount} (hc : c ≠ m.cursor) :
    (m.poll now).2.pulses.get c = m.pulses.get c ∧
      (m.poll now).2.opened.get c = m.opened.get c := by
  rcases m.poll_cases now with hpoll | hpoll | ⟨start, _, _, hpoll⟩ <;> rw [hpoll]
  · exact ⟨rfl, rfl⟩
  · exact reopen_get_of_ne _ now hc
  · exact reopen_get_of_ne _ now hc

/-- After a poll the window of the visited fan is open. -/
theorem poll_opened_self (m : PulseMeter) (now : Nat) :
    ((m.poll now).2.opened.get m.cursor).isSome := by
  cases hopened : m.opened.get m.cursor with
  | none => simp [poll_of_none hopened, reopen_get_self]
  | some start =>
    rcases Nat.lt_or_ge (now - start) m.window with hshort | hlong
    · simp [poll_of_short hopened hshort, hopened]
    · simp [poll_of_long hopened hlong, reopen_get_self]

end

/-! ## The meter after a history -/

section

variable (ms : UInt32) (h : List Move)

theorem meterAfter_window : (meterAfter ms h).window = max 1 ms.toNat * 1000 := by
  induction h using List.reverseRecOn with
  | nil => rfl
  | append_singleton h m ih =>
    rw [meterAfter_concat, ← ih]
    cases m with
    | pulses p => exact record_window ..
    | poll now => exact poll_window ..
    | reopen now channel => exact reopen_window ..

/-- The polls visit the fans in turn, whatever else happens. -/
theorem meterAfter_cursor : (meterAfter ms h).cursor = visited h := by
  induction h using List.reverseRecOn with
  | nil => rfl
  | append_singleton h m ih =>
    rw [meterAfter_concat]
    cases m with
    | pulses p => rw [visited_of_not_poll h rfl, ← ih, move, record_eq]
    | poll now => rw [visited_poll, ← ih, move, poll_cursor]
    | reopen now channel => rw [visited_of_not_poll h rfl, ← ih, move, reopen_eq]

/-- A fan has an open window once it was visited or restarted. -/
theorem meterAfter_opened (c : Fin fanCount) :
    ((meterAfter ms h).opened.get c).isSome ↔ Begun c h := by
  induction h using List.reverseRecOn with
  | nil =>
    have hclosed : (meterAfter ms []).opened.get c = none := Vector.getElem_replicate c.isLt
    rw [hclosed]
    simp [Begun, polls]
  | append_singleton h m ih =>
    rw [meterAfter_concat]
    cases m with
    | pulses p => rw [begun_pulses, ← ih, move, record_opened]
    | poll now =>
      rw [begun_poll, ← ih, move, ← meterAfter_cursor ms h]
      by_cases hc : c = (meterAfter ms h).cursor
      · rw [hc]
        exact iff_of_true (poll_opened_self _ now) (Or.inr rfl)
      · rw [(poll_get_of_ne _ now hc).2]
        exact (or_iff_left (Ne.symm hc)).symm
    | reopen now channel =>
      rw [begun_reopen, ← ih, move]
      by_cases hc : c = channel
      · subst hc
        rw [(reopen_get_self _ now c).2]
        exact iff_of_true rfl (Or.inr rfl)
      · rw [(reopen_get_of_ne _ now hc).2]
        exact (or_iff_left (Ne.symm hc)).symm

end

/-! ## One move -/

section

variable {ms : UInt32} {c : Fin fanCount} {h since : List Move} {opened : Nat} {m : Move}

/-- What opens the window of a fan takes its counter. -/
theorem meterAfter_of_opens (hopens : Opens ms c h opened m) :
    (meterAfter ms (h ++ [m])).opened.get c = some opened ∧
      (meterAfter ms (h ++ [m])).pulses.get c = 0 := by
  rw [meterAfter_concat]
  cases m with
  | pulses p => cases hopens
  | reopen now channel =>
    obtain ⟨rfl, rfl⟩ := hopens
    exact (reopen_get_self _ now channel).symm
  | poll now =>
    obtain ⟨rfl, hvisited, hwhy⟩ := hopens
    rw [← meterAfter_cursor ms h] at hvisited
    subst hvisited
    rw [move]
    cases hopened : (meterAfter ms h).opened.get (meterAfter ms h).cursor with
    | none =>
      rw [poll_of_none hopened]
      exact (reopen_get_self _ now _).symm
    | some start =>
      rcases Nat.lt_or_ge (now - start) (meterAfter ms h).window with hshort | hlong
      · have hbegun := (meterAfter_opened ms h _).mp (Option.isSome_of_mem hopened)
        rw [reading, poll_of_short hopened hshort] at hwhy
        exact absurd hbegun (hwhy.resolve_left Bool.false_ne_true)
      · rw [poll_of_long hopened hlong]
        exact (reopen_get_self _ now _).symm

/-- What does not open the window of a fan leaves it, and counts what it records. -/
theorem meterAfter_of_not_opens (hkept : ∀ later, ¬Opens ms c h later m) :
    (meterAfter ms (h ++ [m])).opened.get c = (meterAfter ms h).opened.get c ∧
      (meterAfter ms (h ++ [m])).pulses.get c =
        (meterAfter ms h).pulses.get c + UInt32.ofNat (m.edges c) := by
  rw [meterAfter_concat]
  cases m with
  | pulses p =>
    rw [move, record_opened, record_get_pulses, Move.edges]
    refine ⟨rfl, ?_⟩
    split
    · rw [UInt32.ofNat_toNat]
    · exact (UInt32.add_zero _).symm
  | reopen now channel =>
    have hc : c ≠ channel := fun heq => hkept now ⟨rfl, heq.symm⟩
    obtain ⟨hpulses, hopened⟩ := reopen_get_of_ne (meterAfter ms h) now hc
    exact ⟨hopened, hpulses.trans (UInt32.add_zero _).symm⟩
  | poll now =>
    by_cases hc : c = (meterAfter ms h).cursor
    · have hvisited : visited h = c := by rw [hc, meterAfter_cursor]
      obtain ⟨hsilent, hbegun⟩ := not_or.mp fun hwhy => hkept now ⟨rfl, hvisited, hwhy⟩
      rw [not_not, ← meterAfter_opened ms] at hbegun
      obtain ⟨start, hopened⟩ := Option.isSome_iff_exists.mp hbegun
      subst hc
      rcases Nat.lt_or_ge (now - start) (meterAfter ms h).window with hshort | hlong
      · rw [move, poll_of_short hopened hshort]
        exact ⟨rfl, (UInt32.add_zero _).symm⟩
      · rw [reading, poll_of_long hopened hlong] at hsilent
        exact absurd rfl hsilent
    · obtain ⟨hpulses, hopened⟩ := poll_get_of_ne (meterAfter ms h) now hc
      exact ⟨hopened, hpulses.trans (UInt32.add_zero _).symm⟩

/-! ## The window after a history -/

/-- The meter keeps the window of a fan and the number of its edges. -/
theorem Window.meter (hwindow : Window ms c h opened since) :
    (meterAfter ms h).opened.get c = some opened ∧
      (meterAfter ms h).pulses.get c = UInt32.ofNat (edges c since) := by
  induction h using List.reverseRecOn generalizing since with
  | nil =>
    obtain ⟨before, m, hsplit, _⟩ := hwindow.opens
    simp at hsplit
  | append_singleton h m ih =>
    rcases hwindow.of_concat with ⟨hopens, rfl⟩ | ⟨earlier, rfl, hearlier, hkept⟩
    · exact meterAfter_of_opens hopens
    · obtain ⟨hopened, hpulses⟩ := ih hearlier
      obtain ⟨hopened', hpulses'⟩ := meterAfter_of_not_opens hkept
      refine ⟨hopened'.trans hopened, ?_⟩
      rw [hpulses', hpulses, edges_concat, UInt32.ofNat_add]

/-- A fan has at most one window. -/
theorem Window.unique {opened' : Nat} {since' : List Move} (hwindow : Window ms c h opened since)
    (hwindow' : Window ms c h opened' since') : opened' = opened ∧ since' = since := by
  refine ⟨Option.some.inj (hwindow'.meter.1.symm.trans hwindow.meter.1), ?_⟩
  induction h using List.reverseRecOn generalizing since since' with
  | nil =>
    obtain ⟨before, m, hsplit, _⟩ := hwindow.opens
    simp at hsplit
  | append_singleton h m ih =>
    rcases hwindow.of_concat with ⟨hopens, rfl⟩ | ⟨earlier, rfl, hearlier, hkept⟩ <;>
      rcases hwindow'.of_concat with ⟨hopens', rfl⟩ | ⟨earlier', rfl, hearlier', hkept'⟩
    · rfl
    · exact absurd hopens (hkept' _)
    · exact absurd hopens' (hkept _)
    · rw [ih hearlier hearlier']

theorem exists_window_of_opened (hopened : (meterAfter ms h).opened.get c = some opened) :
    ∃ since, Window ms c h opened since := by
  induction h using List.reverseRecOn generalizing opened with
  | nil =>
    have hclosed : (meterAfter ms []).opened.get c = none := Vector.getElem_replicate c.isLt
    rw [hclosed] at hopened
    cases hopened
  | append_singleton h m ih =>
    by_cases hopens : ∃ later, Opens ms c h later m
    · obtain ⟨later, hopens⟩ := hopens
      obtain rfl := Option.some.inj ((meterAfter_of_opens hopens).1.symm.trans hopened)
      exact ⟨[], window_of_opens hopens⟩
    · have hkept := not_exists.mp hopens
      rw [(meterAfter_of_not_opens hkept).1] at hopened
      obtain ⟨since, hwindow⟩ := ih hopened
      exact ⟨since ++ [m], hwindow.concat hkept⟩

variable (ms c h) in
/-- A fan has a window once it was visited or restarted. -/
theorem exists_window_iff : (∃ opened since, Window ms c h opened since) ↔ Begun c h := by
  rw [← meterAfter_opened ms h c]
  constructor
  · rintro ⟨opened, since, hwindow⟩
    exact Option.isSome_of_mem hwindow.meter.1
  · intro hopened
    obtain ⟨opened, hopened⟩ := Option.isSome_iff_exists.mp hopened
    exact ⟨opened, exists_window_of_opened hopened⟩

/-! ## Readings -/

variable {now : Nat}

/-- A poll gives a reading if the window of the visited fan has been open for long enough.  The
reading is the frequency of the edges in the window over the time that has passed. -/
theorem reading_eq_some_iff (r : TachReading) :
    reading ms h now = some r ↔
      ∃ opened since, Window ms (visited h) h opened since ∧
        max 1 ms.toNat * 1000 ≤ now - opened ∧
        r = ⟨visited h, frequency (UInt32.ofNat (edges (visited h) since)) (now - opened)⟩ := by
  rw [← meterAfter_window ms h, reading, ← meterAfter_cursor ms h]
  constructor
  · intro hreading
    cases hopened : (meterAfter ms h).opened.get (meterAfter ms h).cursor with
    | none =>
      rw [poll_of_none hopened] at hreading
      cases hreading
    | some opened =>
      obtain ⟨since, hwindow⟩ := exists_window_of_opened hopened
      rcases Nat.lt_or_ge (now - opened) (meterAfter ms h).window with hshort | hlong
      · rw [poll_of_short hopened hshort] at hreading
        cases hreading
      · rw [poll_of_long hopened hlong, hwindow.meter.2] at hreading
        exact ⟨opened, since, hwindow, hlong, (Option.some.inj hreading).symm⟩
  · rintro ⟨opened, since, hwindow, hlong, rfl⟩
    rw [poll_of_long hwindow.meter.1 hlong, hwindow.meter.2]

end

end FanBoard.PulseMeter
