import FanBoard.Proofs.Duty.Standstill

/-!
# Times may be shifted

The timer holds times of 32 bits and takes their differences, so it makes no difference when the clock
of the edges was started.  It only needs a rise to measure from: a header whose first edge rises.

* `record_shifted` compares a channel with one whose edges all come later by the same time.  They differ
  in the time of the last rise and in nothing else.
* `report_shifted` carries this over to a sample and `answer_shifted` to a call.  `answers_concat` adds a
  call to a list of calls.
* `shift_unobservable` is the result for all calls and every offset.
-/

namespace FanBoard

/-! ## One channel -/

/-- The edge at a later time, which may wrap. -/
def Edge.shifted (k : UInt32) (e : Edge) : Edge :=
  ⟨e.rising, e.now + k⟩

namespace EdgeChannel

/-- Where the first edge rises, the times of the edges only tell in the time of the last rise. -/
theorem record_shifted (k : UInt32) (edges : List Edge)
    (hfirst : ∀ e ∈ edges.head?, e.rising = true) (hne : edges ≠ []) :
    record (edges.map (Edge.shifted k)) =
      { record edges with lastRise := (record edges).lastRise + k } := by
  induction edges using List.reverseRecOn with
  | nil => exact absurd rfl hne
  | append_singleton edges e ih =>
    rw [List.map_append, List.map_singleton, record_concat, record_concat]
    by_cases hnil : edges = []
    · -- a first rise measures nothing, as there is no rise before it
      subst hnil
      have hrising : e.rising = true := hfirst e rfl
      simp [record, edge, Edge.shifted, hrising]
    · -- a later edge measures from the last rise, and `k` cancels in the difference
      have hfirst' : ∀ e ∈ edges.head?, e.rising = true := fun e' he' =>
        hfirst e' (List.mem_head?_append_of_mem_head? he')
      rw [ih hfirst' hnil]
      cases h : e.rising <;> simp [edge, Edge.shifted, h]

/-- So the two channels differ in the time of the last rise at most. -/
theorem exists_record_shifted (k : UInt32) (edges : List Edge)
    (hfirst : ∀ e ∈ edges.head?, e.rising = true) :
    ∃ time, record (edges.map (Edge.shifted k)) = { record edges with lastRise := time } := by
  by_cases hnil : edges = []
  · exact ⟨0, by rw [hnil]; rfl⟩
  · exact ⟨_, record_shifted k edges hfirst hnil⟩

end EdgeChannel

/-! ## Calls at shifted times -/

def HeaderEvent.shifted (k : UInt32) : HeaderEvent → HeaderEvent
  | .edge channel rising now => .edge channel rising (now + k)
  | .sample channel => .sample channel

namespace DutyCall

/-- The call with `k` added to its time, in 32 bits or in 64. -/
def shifted (k : UInt64) : DutyCall → DutyCall
  | .edge channel rising now => .edge channel rising (now + k.toUInt32)
  | .interrupt channel level now => .interrupt channel level (now + k)
  | .sample channel => .sample channel
  | .sampleAll => .sampleAll

theorem history_shifted (k : UInt64) (calls : List DutyCall) :
    history (calls.map (shifted k)) = (history calls).map (HeaderEvent.shifted k.toUInt32) := by
  rw [history, history, List.flatMap_map, List.map_flatMap]
  congr 1
  funext c
  cases c <;> simp [events, shifted, HeaderEvent.shifted]

theorem history_append (calls calls' : List DutyCall) :
    history (calls ++ calls') = history calls ++ history calls' :=
  List.flatMap_append

end DutyCall

namespace DutyInput

section Shifted

variable (k : UInt32) (channel : Nat) (events : List HeaderEvent)

theorem edgesOn_shifted : edgesOn channel (events.map (HeaderEvent.shifted k)) =
    (edgesOn channel events).map (Edge.shifted k) := by
  induction events using List.reverseRecOn with
  | nil => rfl
  | append_singleton events e ih =>
    rw [List.map_append, List.map_singleton]
    cases e with
    | edge c rising now =>
      rw [HeaderEvent.shifted, edgesOn_concat_edge, edgesOn_concat_edge, ih]
      split <;> simp [Edge.shifted]
    | sample c => rw [HeaderEvent.shifted, edgesOn_concat_sample, edgesOn_concat_sample, ih]

theorem newEdges_shifted : newEdges channel (events.map (HeaderEvent.shifted k)) =
    (newEdges channel events).map (Edge.shifted k) := by
  induction events using List.reverseRecOn with
  | nil => rfl
  | append_singleton events e ih =>
    rw [List.map_append, List.map_singleton]
    cases e with
    | edge c rising now =>
      rw [HeaderEvent.shifted, newEdges_concat_edge, newEdges_concat_edge, ih]
      split <;> simp [Edge.shifted]
    | sample c =>
      rw [HeaderEvent.shifted, newEdges_concat_sample, newEdges_concat_sample, ih]
      split <;> rfl

end Shifted

theorem report_shifted (k : UInt32) (events : List HeaderEvent) (channel : Fin headerCount)
    (hfirst : ∀ e ∈ (edgesOn channel events).head?, e.rising = true) :
    (after (events.map (HeaderEvent.shifted k))).report channel = (after events).report channel := by
  obtain ⟨time, hrecord⟩ := EdgeChannel.exists_record_shifted k _ hfirst
  rw [report_after, report_after, edgesOn_shifted, newEdges_shifted, hrecord, List.length_map]
  rfl

/-! ## The results of calls -/

/-- What a call gives: the results of its samples. -/
def answer (i : DutyInput) : DutyCall → List (Except SensorFault Float32)
  | .sample channel => [(i.sampler.read i.timer channel).1]
  | .sampleAll => (i.sampler.readAll i.timer).1.toList
  | _ => []

/-- What calls give in order. -/
def answersFrom (i : DutyInput) : List DutyCall → List (Except SensorFault Float32)
  | [] => []
  | c :: calls => i.answer c ++ (i.call c).answersFrom calls

/-- What calls of a fresh timer and sampler give. -/
def answers (calls : List DutyCall) : List (Except SensorFault Float32) :=
  answersFrom {} calls

theorem answersFrom_append (i : DutyInput) (calls calls' : List DutyCall) :
    i.answersFrom (calls ++ calls') =
      i.answersFrom calls ++ (calls.foldl call i).answersFrom calls' := by
  induction calls generalizing i with
  | nil => rfl
  | cons c calls ih => simp [answersFrom, ih]

theorem answers_concat (calls : List DutyCall) (c : DutyCall) :
    answers (calls ++ [c]) = answers calls ++ (afterCalls calls).answer c := by
  rw [answers, answersFrom_append]
  simp [answersFrom, answers, afterCalls]

/-- Inputs whose samples report the same answer a call in the same way, whatever its time. -/
theorem answer_shifted {i i' : DutyInput} (h : ∀ channel, i.report channel = i'.report channel)
    (k : UInt64) (c : DutyCall) : i.answer (c.shifted k) = i'.answer c := by
  cases c with
  | edge | interrupt => rfl
  | sample channel =>
    by_cases hc : channel < headerCount
    · exact congrArg (· :: []) (h ⟨channel, hc⟩)
    · simp [DutyCall.shifted, answer, DutySampler.read, hc]
  | sampleAll => simp [DutyCall.shifted, answer, readAll_eq, h]

/-! ## All calls -/

/-- The first edge of each header rises. -/
def RisesFirst (calls : List DutyCall) : Prop :=
  ∀ channel : Fin headerCount,
    ∀ e ∈ (edgesOn channel (DutyCall.history calls)).head?, e.rising = true

theorem RisesFirst.of_append {calls calls' : List DutyCall} (h : RisesFirst (calls ++ calls')) :
    RisesFirst calls := by
  intro channel e he
  refine h channel e ?_
  rw [DutyCall.history_append, edgesOn, List.filterMap_append]
  exact List.mem_head?_append_of_mem_head? he

/-- What is left of a channel when its edges come later: all but the time of the last rise. -/
theorem exists_channel_shifted {calls : List DutyCall} (first : RisesFirst calls) (k : UInt64)
    (channel : Fin headerCount) :
    ∃ time, (afterCalls (calls.map (DutyCall.shifted k))).timer.channels.get channel =
      { (afterCalls calls).timer.channels.get channel with lastRise := time } := by
  rw [afterCalls_eq, afterCalls_eq, DutyCall.history_shifted, after_channel, after_channel,
    edgesOn_shifted]
  exact EdgeChannel.exists_record_shifted _ _ (first channel)

theorem answers_shifted {calls : List DutyCall} (first : RisesFirst calls) (k : UInt64) :
    answers (calls.map (DutyCall.shifted k)) = answers calls := by
  induction calls using List.reverseRecOn with
  | nil => rfl
  | append_singleton calls c ih =>
    rw [List.map_append, List.map_singleton, answers_concat, answers_concat, ih first.of_append]
    refine congrArg (answers calls ++ ·) (answer_shifted (fun channel => ?_) k c)
    rw [afterCalls_eq, afterCalls_eq, DutyCall.history_shifted]
    exact report_shifted _ _ channel (first.of_append channel)

/-- To add the same time to the time of every edge changes no result of a sample, and at no moment the
number of edges of a header or its level, provided that the first edge of each header rises. -/
theorem shift_unobservable (calls : List DutyCall) (k : UInt64) (first : RisesFirst calls) :
    answers (calls.map (DutyCall.shifted k)) = answers calls ∧
      ∀ before, before <+: calls → ∀ channel : Fin headerCount,
        let timer := (afterCalls before).timer
        let shifted := (afterCalls (before.map (DutyCall.shifted k))).timer
        shifted.edges channel = timer.edges channel ∧
          (shifted.channels.get channel).level = (timer.channels.get channel).level := by
  refine ⟨answers_shifted first k, ?_⟩
  rintro before ⟨rest, rfl⟩ channel timer shifted
  obtain ⟨time, hchannel⟩ := exists_channel_shifted first.of_append k channel
  have hedges : ∀ t : EdgeTimer, t.edges channel = (t.channels.get channel).edges :=
    fun t => dif_pos channel.isLt
  rw [hedges, hedges, hchannel]
  exact ⟨rfl, rfl⟩

/-- Two headers whose edges come around the wrap of the times once they are shifted. -/
def shiftedCalls : List DutyCall :=
  [.edge 0 true 100, .interrupt 1 true 4294967297, .edge 0 false 110, .sampleAll, .edge 0 true 140,
    .interrupt 1 false 4294967330, .sample 0, .sample 5, .interrupt 1 true 4294967340, .sampleAll]

theorem shift_unobservable_shiftedCalls :
    RisesFirst shiftedCalls ∧
      answers (shiftedCalls.map (DutyCall.shifted 18446744073709551500)) = answers shiftedCalls := by
  have first : RisesFirst shiftedCalls := by
    unfold RisesFirst
    decide
  exact ⟨first, (shift_unobservable shiftedCalls 18446744073709551500 first).1⟩

end DutyInput

end FanBoard
