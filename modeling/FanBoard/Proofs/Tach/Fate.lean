import FanBoard.Proofs.Tach.Ledger

/-!
# Every edge is counted once

Pulses that are recorded in an open window stay in it until a move opens the next one.  If that is a
poll, its reading counts them.  If it is a restart, they are dropped.  Until then they wait.

* `Covers` says that the window has held the pulses ever since they were recorded.  It goes on with
  every move that does not open the next window (`covers_concat`).
* `Covers.first_opens` says that only one move meets them there.
* `Fate` is what becomes of pulses.  Pulses of an open window meet one fate and no other
  (`existsUnique_fate`), and pulses recorded before the first window meet none (`no_fate`).
* `edges_counted_once` is the result, with the readings.
-/

namespace FanBoard.PulseMeter

/-- The window of a fan that was open when the pulses were recorded is still open after further
moves, and holds them. -/
def Covers (ms : UInt32) (c : Fin fanCount) (before : List Move) (p : Pulses)
    (moves : List Move) : Prop :=
  ∃ opened since, Window ms c (before ++ .pulses p :: moves) opened (since ++ .pulses p :: moves)

/-- What becomes of pulses. -/
inductive Fate where
  /-- They are in the window that is open now. -/
  | waiting
  /-- After some moves a poll counts them. -/
  | counted (moves : List Move) (now : Nat)
  /-- After some moves a restart drops them. -/
  | dropped (moves : List Move) (now : Nat)

/-- The fate of pulses of a fan, from what came before and after them. -/
def Fate.Holds (ms : UInt32) (c : Fin fanCount) (before : List Move) (p : Pulses)
    (after : List Move) : Fate → Prop
  | .waiting => Covers ms c before p after
  | .counted moves now =>
    Covers ms c before p moves ∧ (∃ rest, after = moves ++ .poll now :: rest) ∧
      visited (before ++ .pulses p :: moves) = c ∧
      (reading ms (before ++ .pulses p :: moves) now).isSome
  | .dropped moves now =>
    Covers ms c before p moves ∧ ∃ rest, after = moves ++ .reopen now c :: rest

section

variable {ms : UInt32} {c : Fin fanCount} {before moves : List Move} {p : Pulses} {m : Move}

/-! ## Staying in a window -/

/-- Pulses are in a window from the start if one is open. -/
theorem covers_nil : Covers ms c before p [] ↔ Begun c before := by
  rw [← exists_window_iff ms c before]
  constructor
  · rintro ⟨opened, since, hwindow⟩
    rcases hwindow.of_concat with ⟨hopens, -⟩ | ⟨earlier, hsince, hearlier, -⟩
    · cases hopens
    · exact ⟨opened, earlier, hearlier⟩
  · rintro ⟨opened, since, hwindow⟩
    exact ⟨opened, since, hwindow.concat fun _ hopens => hopens⟩

/-- A move leaves pulses in their window unless it opens the next one. -/
theorem covers_concat : Covers ms c before p (moves ++ [m]) ↔
    Covers ms c before p moves ∧ ∀ later, ¬Opens ms c (before ++ .pulses p :: moves) later m := by
  have hhistory :
      before ++ .pulses p :: (moves ++ [m]) = (before ++ .pulses p :: moves) ++ [m] := by
    simp
  have hsince : ∀ since : List Move,
      since ++ .pulses p :: (moves ++ [m]) = (since ++ .pulses p :: moves) ++ [m] := by
    simp
  constructor
  · rintro ⟨opened, since, hwindow⟩
    rw [hhistory, hsince] at hwindow
    rcases hwindow.of_concat with ⟨-, hnil⟩ | ⟨earlier, heq, hearlier, hkept⟩
    · simp at hnil
    · rw [← List.append_cancel_right heq] at hearlier
      exact ⟨⟨opened, since, hearlier⟩, hkept⟩
  · rintro ⟨⟨opened, since, hwindow⟩, hkept⟩
    refine ⟨opened, since, ?_⟩
    rw [hhistory, hsince]
    exact hwindow.concat hkept

theorem Covers.of_append {rest : List Move} (h : Covers ms c before p (moves ++ rest)) :
    Covers ms c before p moves := by
  induction rest using List.reverseRecOn with
  | nil => rwa [List.append_nil] at h
  | append_singleton rest m ih =>
    rw [← List.append_assoc] at h
    exact ih (covers_concat.mp h).1

/-- Where pulses stay in their window past a move, it has not opened the next one. -/
theorem Covers.not_opens {rest : List Move} (h : Covers ms c before p (moves ++ m :: rest))
    (later : Nat) : ¬Opens ms c (before ++ .pulses p :: moves) later m := by
  rw [List.append_cons] at h
  exact (covers_concat.mp h.of_append).2 later

variable (ms p) in
/-- Pulses of an open window stay in it, or some move opens the next one. -/
theorem covers_or_opens (hbegun : Begun c before) (after : List Move) :
    Covers ms c before p after ∨
      ∃ moves m rest later, after = moves ++ m :: rest ∧ Covers ms c before p moves ∧
        Opens ms c (before ++ .pulses p :: moves) later m := by
  induction after using List.reverseRecOn with
  | nil => exact Or.inl (covers_nil.mpr hbegun)
  | append_singleton after m ih =>
    rcases ih with hcovers | ⟨moves, m', rest, later, rfl, hcovers, hopens⟩
    · by_cases hopens : ∃ later, Opens ms c (before ++ .pulses p :: after) later m
      · obtain ⟨later, hopens⟩ := hopens
        exact Or.inr ⟨after, m, [], later, rfl, hcovers, hopens⟩
      · exact Or.inl (covers_concat.mpr ⟨hcovers, not_exists.mp hopens⟩)
    · exact Or.inr ⟨moves, m', rest ++ [m], later, by simp, hcovers, hopens⟩

/-- The move that opens the next window is the only one that meets pulses in their window. -/
theorem Covers.first_opens {moves' rest rest' : List Move} {m' : Move} {later later' : Nat}
    (hcovers : Covers ms c before p moves) (hcovers' : Covers ms c before p moves')
    (hopens : Opens ms c (before ++ .pulses p :: moves) later m)
    (hopens' : Opens ms c (before ++ .pulses p :: moves') later' m')
    (hsplit : moves ++ m :: rest = moves' ++ m' :: rest') : moves' = moves ∧ m' = m := by
  rcases List.append_eq_append_iff.mp hsplit with ⟨mid, rfl, hmid⟩ | ⟨mid, rfl, hmid⟩
  · cases mid with
    | nil => exact ⟨List.append_nil _, (List.cons.inj hmid).1.symm⟩
    | cons x mid =>
      obtain ⟨rfl, -⟩ := List.cons.inj hmid
      exact absurd hopens (hcovers'.not_opens later)
  · cases mid with
    | nil => exact ⟨(List.append_nil _).symm, (List.cons.inj hmid).1⟩
    | cons x mid =>
      obtain ⟨rfl, -⟩ := List.cons.inj hmid
      exact absurd hopens' (hcovers.not_opens later')

/-! ## Fates -/

/-- What the move after some moves does to the pulses that are still in their window. -/
def Fate.by (moves : List Move) : Move → Fate
  | .pulses _ => .waiting
  | .poll now => .counted moves now
  | .reopen now _ => .dropped moves now

/-- Pulses wait, or they meet the move that opens the next window. -/
theorem Fate.holds_iff {after : List Move} (fate : Fate) :
    fate.Holds ms c before p after ↔
      fate = .waiting ∧ Covers ms c before p after ∨
      ∃ moves m rest later, after = moves ++ m :: rest ∧ Covers ms c before p moves ∧
        Opens ms c (before ++ .pulses p :: moves) later m ∧ fate = Fate.by moves m := by
  constructor
  · intro hholds
    cases fate with
    | waiting => exact Or.inl ⟨rfl, hholds⟩
    | counted moves now =>
      obtain ⟨hcovers, ⟨rest, hsplit⟩, hvisited, hread⟩ := hholds
      exact Or.inr
        ⟨moves, .poll now, rest, now, hsplit, hcovers, ⟨rfl, hvisited, Or.inl hread⟩, rfl⟩
    | dropped moves now =>
      obtain ⟨hcovers, rest, hsplit⟩ := hholds
      exact Or.inr ⟨moves, .reopen now c, rest, now, hsplit, hcovers, ⟨rfl, rfl⟩, rfl⟩
  · rintro (⟨rfl, hcovers⟩ | ⟨moves, m, rest, later, hsplit, hcovers, hopens, rfl⟩)
    · exact hcovers
    · cases m with
      | pulses q => cases hopens
      | reopen now channel =>
        obtain ⟨-, rfl⟩ := hopens
        exact ⟨hcovers, rest, hsplit⟩
      | poll now =>
        obtain ⟨-, hvisited, hwhy⟩ := hopens
        have hbegun : Begun c (before ++ .pulses p :: moves) := by
          obtain ⟨opened, since, hwindow⟩ := hcovers
          exact (exists_window_iff ms c _).mp ⟨opened, _, hwindow⟩
        exact ⟨hcovers, ⟨rest, hsplit⟩, hvisited, hwhy.resolve_right (not_not_intro hbegun)⟩

/-- Pulses of an open window meet one fate. -/
theorem existsUnique_fate (hbegun : Begun c before) (after : List Move) :
    ∃! fate : Fate, fate.Holds ms c before p after := by
  simp only [Fate.holds_iff]
  rcases covers_or_opens ms p hbegun after with
    hcovers | ⟨moves, m, rest, later, hsplit, hcovers, hopens⟩
  · refine ⟨.waiting, Or.inl ⟨rfl, hcovers⟩, ?_⟩
    rintro fate (⟨rfl, -⟩ | ⟨moves, m, rest, later, rfl, -, hopens, -⟩)
    · rfl
    · exact absurd hopens (hcovers.not_opens later)
  · subst hsplit
    refine ⟨Fate.by moves m, Or.inr ⟨moves, m, rest, later, rfl, hcovers, hopens, rfl⟩, ?_⟩
    rintro fate (⟨rfl, hstay⟩ | ⟨moves', m', rest', later', hsplit, hcovers', hopens', rfl⟩)
    · exact absurd hopens (hstay.not_opens later)
    · obtain ⟨rfl, rfl⟩ := hcovers.first_opens hcovers' hopens hopens' hsplit
      rfl

/-- Pulses that were recorded before the first window meet none. -/
theorem no_fate (hbegun : ¬Begun c before) (after : List Move) (fate : Fate) :
    ¬fate.Holds ms c before p after := by
  have hnever : ∀ moves, ¬Covers ms c before p moves := by
    intro moves hcovers
    have hstart : Covers ms c before p ([] ++ moves) := hcovers
    exact hbegun (covers_nil.mp hstart.of_append)
  rw [Fate.holds_iff]
  rintro (⟨-, hcovers⟩ | ⟨moves, m, rest, later, -, hcovers, -⟩)
  · exact hnever after hcovers
  · exact hnever moves hcovers

end

/-! ## The result -/

/-- For windows of any length, zero taken as one millisecond, and after any history:

* a poll concerns only the fan whose number is that of the poll modulo the number of fans, and
  leaves the counters and windows of the others;
* a fan has a window, and only one, once it was visited or restarted;
* a poll gives a reading exactly if the window of the visited fan has been open for its length, so
  at least for a millisecond, and its frequency is that of the edges recorded since the window was
  opened, if there are fewer of them than the counter has values;
* pulses recorded in an open window meet one fate: one reading counts them, or a restart drops
  them, or they wait in the window; pulses recorded before the first window are counted by no
  reading;
* a restart opens the windows of all fans in turn. -/
theorem edges_counted_once (ms : UInt32) (h : List Move) (now : Nat) :
    (∀ r, reading ms h now = some r → r.channel = polls h % fanCount) ∧
      (∀ c : Fin fanCount, c.val ≠ polls h % fanCount →
        ((meterAfter ms h).poll now).2.pulses.get c = (meterAfter ms h).pulses.get c ∧
        ((meterAfter ms h).poll now).2.opened.get c = (meterAfter ms h).opened.get c) ∧
      (∀ c, (∃! w : Nat × List Move, Window ms c h w.1 w.2) ↔ Begun c h) ∧
      ((reading ms h now).isSome ↔
        ∃ opened since, Window ms (visited h) h opened since ∧
          max 1 ms.toNat * 1000 ≤ now - opened) ∧
      (∀ r opened since, reading ms h now = some r → Window ms (visited h) h opened since →
        1000 ≤ now - opened ∧
          (edges (visited h) since < UInt32.size →
            r.hz = Single.ofNat (edges (visited h) since) * 1000000 /
              Single.ofNat (now - opened))) ∧
      (∀ (c : Fin fanCount) n before after, h = before ++ .pulses ⟨c, n⟩ :: after →
        (Begun c before → ∃! fate : Fate, fate.Holds ms c before ⟨c, n⟩ after) ∧
        (¬Begun c before → ∀ fate : Fate, ¬fate.Holds ms c before ⟨c, n⟩ after)) ∧
      (meterAfter ms h).restart now =
        meterAfter ms (h ++ (List.finRange fanCount).map (.reopen now)) := by
  have hcursor : (meterAfter ms h).cursor.val = polls h % fanCount :=
    congrArg Fin.val (meterAfter_cursor ms h)
  refine ⟨fun r hr => ?_, fun c hc => ?_, fun c => ?_, ?_, ?_, ?_, restart_eq ms h now⟩
  · obtain ⟨opened, since, -, -, rfl⟩ := (reading_eq_some_iff r).mp hr
    rfl
  · exact poll_get_of_ne _ now fun heq => hc (heq ▸ hcursor)
  · rw [← exists_window_iff ms c h]
    constructor
    · rintro ⟨w, hwindow, -⟩
      exact ⟨w.1, w.2, hwindow⟩
    · rintro ⟨opened, since, hwindow⟩
      refine ⟨(opened, since), hwindow, fun w hw => ?_⟩
      obtain ⟨hopened, hsince⟩ := hwindow.unique hw
      exact Prod.ext hopened hsince
  · rw [Option.isSome_iff_exists]
    simp only [reading_eq_some_iff]
    constructor
    · rintro ⟨r, opened, since, hwindow, hlong, -⟩
      exact ⟨opened, since, hwindow, hlong⟩
    · rintro ⟨opened, since, hwindow, hlong⟩
      exact ⟨_, opened, since, hwindow, hlong, rfl⟩
  · intro r opened since hr hwindow
    obtain ⟨opened', since', hwindow', hlong, rfl⟩ := (reading_eq_some_iff r).mp hr
    obtain ⟨rfl, rfl⟩ := hwindow.unique hwindow'
    refine ⟨by omega, fun hfew => ?_⟩
    rw [frequency, UInt32.toNat_ofNat_of_lt' hfew]
  · rintro c n before after -
    exact ⟨fun hbegun => existsUnique_fate hbegun after, fun hbegun => no_fate hbegun after⟩

/-- The first round opens the windows.  Then forty edges in two seconds are twenty hertz, and the
edges from before do not count. -/
example :
    reading 1000 [.pulses ⟨0, 7⟩, .poll 0, .poll 0, .poll 0, .poll 0, .pulses ⟨0, 40⟩] 2000000 =
      some ⟨0, 20⟩ := by
  decide +kernel

end FanBoard.PulseMeter
