import FanBoard.Proofs.Duty.Period

/-!
# When a line counts as standing still

The sampler remembers one number for each header, and takes a header for still if the timer shows the
same number.  Calls of the timer and of the sampler come in any order, for headers that exist and for
others.

* `DutyCall` are the calls.  `afterCalls_eq` reduces them to the edges and samples of `HeaderEvent`.
* `newEdges` are the edges of a header since its last sample.  `seen_add_newEdges` ties the number that
  the sampler remembers to them, and `report_after` gives a sample in terms of the edges of its header
  alone.
* `still_iff_no_new_edges` is what follows: what a sample reports, what it does not depend on, and how
  the sample of both headers goes.
-/

namespace FanBoard

/-! ## Calls -/

/-- A call of the timer or of the sampler. -/
inductive DutyCall where
  | edge (channel : Nat) (rising : Bool) (now : UInt32)
  /-- An edge is recorded at a time of 64 bits. -/
  | interrupt (channel : Nat) (level : Bool) (now : UInt64)
  | sample (channel : Nat)
  | sampleAll
deriving DecidableEq

/-- The edges and samples of a call. -/
def DutyCall.events : DutyCall → List HeaderEvent
  | .edge channel rising now => [.edge channel rising now]
  | .interrupt channel level now => [.edge channel level now.toUInt32]
  | .sample channel => [.sample channel]
  | .sampleAll => [.sample 0, .sample 1]

/-- The edges and samples of calls in order. -/
def DutyCall.history (calls : List DutyCall) : List HeaderEvent :=
  calls.flatMap events

def HeaderEvent.channel : HeaderEvent → Nat
  | .edge channel _ _ => channel
  | .sample channel => channel

namespace DutyInput

def call (i : DutyInput) : DutyCall → DutyInput
  | .edge channel rising now => { i with timer := i.timer.edge channel rising now }
  | .interrupt channel level now => { i with timer := i.timer.interrupt channel level now.toNat }
  | .sample channel => { i with sampler := (i.sampler.read i.timer channel).2 }
  | .sampleAll => { i with sampler := (i.sampler.readAll i.timer).2 }

/-- A fresh timer and a sampler of it after calls.  A sampler remembers nothing before its first sample,
so it may also be made after edges were recorded. -/
def afterCalls (calls : List DutyCall) : DutyInput :=
  calls.foldl call {}

theorem call_eq (i : DutyInput) (c : DutyCall) : i.call c = c.events.foldl take i := by
  cases c <;> rfl

theorem afterCalls_eq (calls : List DutyCall) : afterCalls calls = after (DutyCall.history calls) := by
  rw [afterCalls, after, DutyCall.history, List.foldl_flatMap]
  exact List.foldl_ext _ _ _ fun i c _ => i.call_eq c

/-! ## The edges since the last sample -/

/-- The edges of a header since its last sample, or all of them if there was none. -/
def newEdges (channel : Nat) (events : List HeaderEvent) : List Edge :=
  events.foldl (fun edges e => match e with
    | .edge c rising now => if c = channel then edges ++ [⟨rising, now⟩] else edges
    | .sample c => if c = channel then [] else edges) []

section Concat

variable (channel : Nat) (events : List HeaderEvent) (c : Nat)

theorem newEdges_concat_edge (rising : Bool) (now : UInt32) :
    newEdges channel (events ++ [.edge c rising now]) =
      if c = channel then newEdges channel events ++ [⟨rising, now⟩]
      else newEdges channel events := by
  simp [newEdges]

theorem newEdges_concat_sample :
    newEdges channel (events ++ [.sample c]) = if c = channel then [] else newEdges channel events := by
  simp [newEdges]

end Concat

/-- The sampler is behind the timer by the new edges. -/
theorem seen_add_newEdges (events : List HeaderEvent) (channel : Fin headerCount) :
    (after events).sampler.seen.get channel + UInt32.ofNat (newEdges channel events).length =
      UInt32.ofNat (edgesOn channel events).length := by
  induction events using List.reverseRecOn with
  | nil => simp [after, newEdges, edgesOn, Vector.get]
  | append_singleton events e ih =>
    rw [after_concat]
    cases e with
    | edge c rising now =>
      rw [newEdges_concat_edge, edgesOn_concat_edge]
      split
      · rw [List.length_append, List.length_append, UInt32.ofNat_add, UInt32.ofNat_add, ← ih, add_assoc]
        rfl
      · exact ih
    | sample c =>
      -- the sample remembers the number of edges on record, also if it then reports an error
      rw [newEdges_concat_sample, edgesOn_concat_sample, take_sample_seen, after_channel,
        EdgeChannel.record_edges]
      split
      · exact add_zero _
      · exact ih

/-- A sample of a header in terms of its edges. -/
theorem report_after (events : List HeaderEvent) (channel : Fin headerCount) :
    (after events).report channel =
      if UInt32.ofNat (newEdges channel events).length = 0 then
        .ok (EdgeChannel.record (edgesOn channel events)).levelDuty
      else (EdgeChannel.record (edgesOn channel events)).timedDuty.elim (.error .noSignal) .ok := by
  have hmoved : UInt32.ofNat (edgesOn channel events).length =
      (after events).sampler.seen.get channel ↔
        UInt32.ofNat (newEdges channel events).length = 0 := by
    rw [← seen_add_newEdges]
    exact add_eq_left
  rw [report_eq, after_channel, EdgeChannel.record_edges]
  exact if_congr hmoved rfl rfl

/-! ## The events of one header -/

/-- The edges and the samples of a header. -/
def ownEvents (channel : Nat) (events : List HeaderEvent) : List HeaderEvent :=
  events.filter fun e => e.channel = channel

theorem ownEvents_concat (channel : Nat) (events : List HeaderEvent) (e : HeaderEvent) :
    ownEvents channel (events ++ [e]) =
      if e.channel = channel then ownEvents channel events ++ [e] else ownEvents channel events := by
  by_cases h : e.channel = channel <;> simp [ownEvents, h]

theorem edgesOn_ownEvents (channel : Nat) (events : List HeaderEvent) :
    edgesOn channel (ownEvents channel events) = edgesOn channel events := by
  induction events using List.reverseRecOn with
  | nil => rfl
  | append_singleton events e ih =>
    rw [ownEvents_concat]
    cases e with
    | edge c rising now =>
      by_cases hc : c = channel <;> simp [HeaderEvent.channel, edgesOn_concat_edge, hc, ih]
    | sample c =>
      by_cases hc : c = channel <;> simp [HeaderEvent.channel, edgesOn_concat_sample, hc, ih]

theorem newEdges_ownEvents (channel : Nat) (events : List HeaderEvent) :
    newEdges channel (ownEvents channel events) = newEdges channel events := by
  induction events using List.reverseRecOn with
  | nil => rfl
  | append_singleton events e ih =>
    rw [ownEvents_concat]
    cases e with
    | edge c rising now =>
      by_cases hc : c = channel <;> simp [HeaderEvent.channel, newEdges_concat_edge, hc, ih]
    | sample c =>
      by_cases hc : c = channel <;> simp [HeaderEvent.channel, newEdges_concat_sample, hc, ih]

/-- A sample of a header depends on the events of the header alone. -/
theorem report_congr {events events' : List HeaderEvent} {channel : Fin headerCount}
    (h : ownEvents channel events = ownEvents channel events') :
    (after events).report channel = (after events').report channel := by
  have hedges : edgesOn channel events = edgesOn channel events' := by
    rw [← edgesOn_ownEvents, h, edgesOn_ownEvents]
  have hnew : newEdges channel events = newEdges channel events' := by
    rw [← newEdges_ownEvents, h, newEdges_ownEvents]
  rw [report_after, report_after, hedges, hnew]

end DutyInput

/-- The level of a channel is that after its last edge, and low before there is one. -/
theorem EdgeChannel.record_level (edges : List Edge) :
    (record edges).level = edges.getLast?.any Edge.rising := by
  induction edges using List.reverseRecOn with
  | nil => rfl
  | append_singleton edges e _ =>
    rw [record_concat, List.getLast?_concat]
    cases h : e.rising <;> simp [edge, h]

namespace DutyInput

/-! ## What a sample reports -/

theorem report_take_sample_of_ne (i : DutyInput) {channel : Fin headerCount} {c : Nat}
    (h : c ≠ channel) : (i.take (.sample c)).report channel = i.report channel := by
  rw [report_eq, report_eq, take_sample_seen, if_neg h]
  rfl

/-- A sample of both headers gives what a sample of each would give. -/
theorem readAll_eq (i : DutyInput) :
    (i.sampler.readAll i.timer).1 = #v[i.report 0, i.report 1] := by
  have hsecond : (i.take (.sample 0)).report 1 = i.report 1 :=
    i.report_take_sample_of_ne (by decide)
  rw [← hsecond]
  rfl

/-- A sample of a header reports all or nothing, by the level after its last edge, if the header had no
edge since its last sample, and else what the times of its edges tell.  It depends on the edges and the
samples of this header alone.  A sample of both headers is one of the first and then one of the second,
and gives what each of them would give. -/
theorem still_iff_no_new_edges (calls : List DutyCall) (channel : Fin headerCount)
    (few : (newEdges channel (DutyCall.history calls)).length < UInt32.size) :
    let events := DutyCall.history calls
    let edges := edgesOn channel events
    let input := afterCalls calls
    (newEdges channel events = [] →
        input.report channel = .ok (if edges.getLast?.any Edge.rising then 100 else 0)) ∧
      (newEdges channel events ≠ [] → input.report channel =
        (EdgeChannel.record edges).timedDuty.elim (.error .noSignal) .ok) ∧
      (∀ calls', ownEvents channel (DutyCall.history calls') = ownEvents channel events →
        (afterCalls calls').report channel = input.report channel) ∧
      input.call .sampleAll = (input.call (.sample 0)).call (.sample 1) ∧
      (input.sampler.readAll input.timer).1 = #v[input.report 0, input.report 1] := by
  intro events edges input
  have hreport : input.report channel = _ :=
    (congrArg (report · channel) (afterCalls_eq calls)).trans (report_after events channel)
  refine ⟨fun hnone => ?still, fun hsome => ?moving, fun calls' hown => ?_, rfl, readAll_eq input⟩
  case still =>
    rw [hreport, if_pos (by rw [hnone]; rfl), EdgeChannel.levelDuty, EdgeChannel.record_level]
  case moving =>
    -- so few new edges do not bring the number around to the one that the sampler remembers
    have hne : UInt32.ofNat (newEdges channel events).length ≠ 0 := by
      intro hzero
      have hlength := congrArg UInt32.toNat hzero
      rw [UInt32.toNat_ofNat_of_lt' few] at hlength
      exact hsome (List.length_eq_zero_iff.mp hlength)
    rw [hreport, if_neg hne]
  · rw [show input = _ from afterCalls_eq calls, afterCalls_eq]
    exact report_congr hown

/-- Calls for both headers, and for two that do not exist. -/
def mixedCalls : List DutyCall :=
  [.edge 1 true 10, .sample 1, .edge 0 false 5, .interrupt 2 true 7, .sampleAll, .edge 0 true 45,
    .sample 7]

theorem still_iff_no_new_edges_mixedCalls :
    (newEdges 0 (DutyCall.history mixedCalls)).length < UInt32.size ∧
      (newEdges 1 (DutyCall.history mixedCalls)).length < UInt32.size ∧
      (afterCalls mixedCalls).report 1 = .ok 100 ∧
      (afterCalls mixedCalls).report 0 =
        (EdgeChannel.record [⟨false, 5⟩, ⟨true, 45⟩]).timedDuty.elim (.error .noSignal) .ok := by
  have few : (newEdges 0 (DutyCall.history mixedCalls)).length < UInt32.size := by decide
  have few' : (newEdges 1 (DutyCall.history mixedCalls)).length < UInt32.size := by decide
  exact ⟨few, few', (still_iff_no_new_edges mixedCalls 1 few').1 rfl,
    (still_iff_no_new_edges mixedCalls 0 few).2.1 (by decide)⟩

end DutyInput

end FanBoard
