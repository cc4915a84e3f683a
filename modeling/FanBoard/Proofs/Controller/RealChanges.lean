import FanBoard.Proofs.Controller.Accepted
import FanBoard.Proofs.Controller.Chatter
import FanBoard.Proofs.Settings.Check

/-!
# When every call is a real change

A board may take it that an output is asked only for a value other than the one that it accepted
last.  That holds where the threshold of the output is positive.  The check of the settings also
lets a threshold of zero through, and then every pass asks the output again for what it already
has.

* `Output.AsksChanges` is what the board may take for granted.
* `asksChanges_of_pos` gives it for a positive threshold, on any board and with any curve.
* `asked_still` is a call that breaks it for a threshold of zero, on a bench where nothing moves.
* `calls_are_changes_iff` puts the two together, and `zero_threshold_repeats` is an instance of the
  exception.
-/

namespace FanBoard

/-! ## The calls of a history -/

namespace Output

/-- Whenever an output is asked for a value in a history, it is another one than it accepted last.
-/
def AsksChanges (o : Output) (hs : List Happening) : Prop :=
  ∀ before value result after, hs = before ++ .call (o.call value result) :: after →
    (value == o.lastAccepted before) = false

theorem call_injective {o o' : Output} {value value' : Float32}
    {result result' : Except ActuatorFault Unit}
    (h : o.call value result = o'.call value' result') : o = o' ∧ value = value' := by
  cases o with
  | fan i =>
    cases o' with
    | header j => cases h
    | fan j =>
      obtain ⟨hchannel, hvalue, -⟩ := OutputCall.fan.inj h
      exact ⟨congrArg Output.fan (Fin.ext hchannel), hvalue⟩
  | header i =>
    cases o' with
    | fan j => cases h
    | header j =>
      obtain ⟨hchannel, hvalue, -⟩ := OutputCall.header.inj h
      exact ⟨congrArg Output.header (Fin.ext hchannel), hvalue⟩

/-- An output accepts only what it was asked for. -/
theorem value_of_accepted {o o' : Output} {value value' : Float32}
    {result : Except ActuatorFault Unit}
    (h : o.accepted? (.call (o'.call value result)) = some value') : value' = value := by
  cases result with
  | error f => cases o <;> cases o' <;> cases h
  | ok =>
    cases o with
    | fan i =>
      cases o' with
      | header j => cases h
      | fan j => exact (Option.some.inj (Option.ite_none_right_eq_some.mp h).2).symm
    | header i =>
      cases o' with
      | fan j => cases h
      | header j => exact (Option.some.inj (Option.ite_none_right_eq_some.mp h).2).symm

end Output

section Asks

variable {allowed : Signals → Output → Float32 → Prop} {t : Thresholds} {s : Signals} {o : Output}

/-- A call asks for what is allowed at that moment. -/
theorem Asks.at_call {before after : List Happening} {value : Float32}
    {result : Except ActuatorFault Unit}
    (h : Asks allowed t s (before ++ .call (o.call value result) :: after)) :
    allowed (before.foldl (Signals.after t) s) o value := by
  obtain ⟨o', value', result', hcall, hallowed⟩ := (asks_append.mp h).2.1 _ rfl
  obtain ⟨rfl, rfl⟩ := Output.call_injective hcall
  exact hallowed

/-- What an output accepted last is zero or was allowed. -/
theorem Asks.lastAccepted {P : Float32 → Prop} {hs : List Happening}
    (h : Asks (fun _ _ value => P value) t s hs) (hzero : P 0) : P (o.lastAccepted hs) := by
  rw [Output.lastAccepted]
  cases hlast : (hs.filterMap o.accepted?).getLast? with
  | none => exact hzero
  | some value =>
    obtain ⟨x, hx, haccepted⟩ := List.mem_filterMap.mp (List.mem_of_getLast? hlast)
    obtain ⟨before, after, rfl⟩ := List.append_of_mem hx
    cases x with
    | sample sample =>
      rw [o.accepted?_sample] at haccepted
      cases haccepted
    | call call =>
      obtain ⟨o', value', result, rfl, hvalue⟩ := (asks_append.mp h).2.1 _ rfl
      rw [Option.getD_some, Output.value_of_accepted haccepted]
      exact hvalue

end Asks

/-- A value is a change of what an output holds, by the threshold of the output. -/
def Thresholds.Changes (t : Thresholds) (s : Signals) (o : Output) (value : Float32) : Prop :=
  Deadband.changed (s.output o) value (t.output o) = true

namespace Controller

variable {β : Type} (board : β) (settings : Settings) (shared : Shared) {o : Output}

/-! ## A positive threshold -/

/-- On any board and with any curves, where the threshold of an output is positive, it is asked only
for changes. -/
theorem asksChanges_of_pos (runs : List (TaskRun β)) (hpos : 0 < settings.thresholds.output o) :
    o.AsksChanges ((start board settings shared).history runs) := by
  let first := start board settings shared
  have hfollows : first.Follows settings.thresholds.Changes (first.history runs) _ :=
    runTasks_follows first runs fun _ _ _ _ _ hwants => hwants.changed
  have hasks : Asks settings.thresholds.Changes settings.thresholds Signals.zero _ := hfollows.asks
  intro before value result after hsplit
  rw [hsplit] at hasks
  have hheld : (before.foldl (Signals.after settings.thresholds) Signals.zero).output o =
      o.lastAccepted before := by
    rw [Signals.output_foldl_after, Signals.output_zero]
    rfl
  have hchanged := hasks.at_call
  rw [Thresholds.Changes, hheld] at hchanged
  refine Bool.eq_false_iff.mpr fun hsame => ?_
  rw [Deadband.changed_of_beq hsame hpos] at hchanged
  cases hchanged

/-! ## A threshold of zero -/

/-- The curve of a bench where nothing moves. -/
def stillCurve : Curve :=
  .fixed (.replicate _ 0) (.replicate _ 0)

theorem stillCurve_target (s : Signals) (o : Output) : stillCurve.target s o = 0 := by
  have hzero : ∀ {n i : Nat}, i < n → (Vector.replicate n (0 : Float32)).toList.getD i 0 = 0 := by
    intro n i hi
    rw [Vector.toList_replicate, List.getD_replicate _ hi]
  cases o with
  | fan i => exact hzero i.isLt
  | header i => exact hzero i.isLt

/-- An output update on the bench, where nothing moves. -/
def stillRun : TaskRun ProbeBoard :=
  { updateRun with wiring := { board := ProbeBoard.board, curve := stillCurve } }

/-- Where nothing moves, an output with a threshold of zero is asked for zero. -/
theorem asked_still (bench : ProbeBoard) (hnonneg : 0 ≤ settings.thresholds.output o)
    (hzero : ¬0 < settings.thresholds.output o) :
    ∃ result, .call (o.call 0 result) ∈ (start bench settings shared).history [stillRun] := by
  let begun := (start bench settings shared).passStart stillRun
  have hheld : begun.signals.output o = 0 := Signals.output_zero o
  have hwants : (begun.turn stillRun.wiring Output.all o).wants stillCurve o = true := by
    obtain ⟨houtput, hsettings⟩ := turn_keeps stillRun.wiring begun Output.all o
    rw [wants, houtput, hsettings, hheld, stillCurve_target]
    exact Deadband.changed_zero hnonneg hzero
  obtain ⟨result, hasked⟩ := asked_of_wants (start bench settings shared) stillRun rfl hwants
  have htarget :
      stillRun.wiring.curve.target (begun.turn stillRun.wiring Output.all o).signals o = 0 :=
    stillCurve_target _ o
  rw [htarget] at hasked
  exact ⟨result, List.mem_append_left _ hasked⟩

/-- That is no change. -/
theorem not_asksChanges_of_zero (bench : ProbeBoard)
    (hnonneg : 0 ≤ settings.thresholds.output o) (hzero : ¬0 < settings.thresholds.output o) :
    ¬o.AsksChanges ((start bench settings shared).history [stillRun]) := by
  intro hchanges
  let first := start bench settings shared
  have hfollows : first.Follows (fun _ _ value => value = 0) (first.history [stillRun])
      (first.runTasks [stillRun]) := by
    refine runTasks_follows first [stillRun] fun r hr s o value hwants => ?_
    rw [hwants.target, List.mem_singleton.mp hr]
    exact stillCurve_target s o
  have hasks := hfollows.asks
  obtain ⟨result, hasked⟩ := asked_still settings shared bench hnonneg hzero
  obtain ⟨before, after, hsplit⟩ := List.append_of_mem hasked
  have hsame := hchanges before 0 result after hsplit
  have hlast : o.lastAccepted before = 0 := by
    rw [hsplit] at hasks
    exact (asks_append.mp hasks).1.lastAccepted rfl
  rw [hlast] at hsame
  exact absurd hsame (by decide)

/-! ## The result -/

/-- With settings that the check accepts, an output is asked only for changes, on every board, with
every curve and in every run, exactly if its threshold is positive. -/
theorem calls_are_changes_iff (hcheck : settings.check = .ok settings) (o : Output) :
    (∀ (β : Type) (board : β) (shared : Shared) (runs : List (TaskRun β)),
      o.AsksChanges ((start board settings shared).history runs)) ↔
      0 < settings.thresholds.output o := by
  have hsound : settings.Sound :=
    ((Settings.defect?_eq_none_iff settings).mp ((Settings.check_eq_ok settings).mp hcheck)).1
  have hnonneg : 0 ≤ settings.thresholds.output o := by
    refine (hsound.thresholds _ ?_).2
    cases o <;> simp [Thresholds.output, Thresholds.toList]
  constructor
  · intro hchanges
    by_contra hzero
    exact not_asksChanges_of_zero settings { clock := Clock.stepping 0 1 } {} hnonneg hzero
      (hchanges _ _ _ _)
  · intro hpos β board shared runs
    exact asksChanges_of_pos board settings shared runs hpos

/-- With the defaults every output is asked only for changes. -/
theorem calls_are_changes_default :
    Settings.check {} = .ok {} ∧ ∀ (o : Output) (β : Type) (board : β) (shared : Shared)
      (runs : List (TaskRun β)), o.AsksChanges ((start board {} shared).history runs) := by
  have hcheck : Settings.check {} = .ok {} := (Settings.check_eq_ok {}).mpr (by decide)
  refine ⟨hcheck, fun o => (calls_are_changes_iff {} hcheck o).mpr ?_⟩
  cases o with
  | fan i => exact (by decide : (0 : Float32) < 0.1)
  | header i => exact (by decide : (0 : Float32) < 0.1)

/-- Settings with a threshold of zero for the duty of the fans. -/
def touchy : Settings :=
  { thresholds := { outputDuty := 0 } }

/-- The check accepts a threshold of zero, and the first pass asks each fan for what it has. -/
theorem zero_threshold_repeats :
    touchy.check = .ok touchy ∧ ∀ i : Fin fanCount,
      ¬(Output.fan i).AsksChanges
        ((start ({} : ProbeBoard) touchy { clock := Clock.stepping 0 1 }).history [stillRun]) := by
  refine ⟨(Settings.check_eq_ok touchy).mpr (by decide), fun i => ?_⟩
  have hnonneg : (0 : Float32) ≤ 0 := by decide
  have hzero : ¬(0 : Float32) < 0 := by decide
  exact not_asksChanges_of_zero touchy { clock := Clock.stepping 0 1 } {} hnonneg hzero

end Controller

end FanBoard
