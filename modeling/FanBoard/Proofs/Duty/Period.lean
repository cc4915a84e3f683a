import FanBoard.Duty.Sampler
import Mathlib.Data.List.Induction
import Mathlib.Data.UInt

/-!
# When a duty is reported

Edges arrive at the headers and samples are taken of them, in any order.  `DutyInput.after` is the
timer and the sampler after such events, and `edgesOn` keeps the edges of one header.

A duty needs the time between two rises.  The timer measures a rise against the one before it if
there was any edge before.  An edge before it may also be a fall, and then the first rise is measured
against time zero.

There are three groups.

* The channel after a list of edges.  `record_lastRise` and `record_period` give the two times on
  record, and `measured_ne_zero_iff` says when the period is not zero.
* The sampler after a list of events.  `after_seen` gives the number that it remembers, so `News` is
  what it sees as new edges.
* The report.  `duty_reported_iff` says exactly when a sample that sees new edges gives a duty, and
  `duty_reported_of_one_rise` is a duty without a period.
-/

namespace FanBoard

/-! ## The channel after its edges -/

/-- An edge of a header. -/
structure Edge where
  rising : Bool
  now : UInt32
deriving DecidableEq

namespace EdgeChannel

/-- The times of the rises in order. -/
def rises (edges : List Edge) : List UInt32 :=
  (edges.filter Edge.rising).map Edge.now

theorem rises_concat (edges : List Edge) (e : Edge) :
    rises (edges ++ [e]) = if e.rising then rises edges ++ [e.now] else rises edges := by
  cases h : e.rising <;> simp [rises, h]

/-- A fresh channel after its edges. -/
def record (edges : List Edge) : EdgeChannel :=
  edges.foldl (fun c e => c.edge e.rising e.now) {}

theorem record_concat (edges : List Edge) (e : Edge) :
    record (edges ++ [e]) = (record edges).edge e.rising e.now := by
  simp [record]

@[simp] theorem edge_edges (c : EdgeChannel) (rising : Bool) (now : UInt32) :
    (c.edge rising now).edges = c.edges + 1 := by
  cases rising <;> rfl

theorem record_edges (edges : List Edge) :
    (record edges).edges = UInt32.ofNat edges.length := by
  induction edges using List.reverseRecOn with
  | nil => rfl
  | append_singleton edges e ih =>
    rw [record_concat, edge_edges, ih, List.length_append, UInt32.ofNat_add]
    rfl

theorem record_lastRise (edges : List Edge) :
    (record edges).lastRise = (rises edges).getLast?.getD 0 := by
  induction edges using List.reverseRecOn with
  | nil => rfl
  | append_singleton edges e ih =>
    rw [record_concat, rises_concat]
    cases h : e.rising with
    | false => simpa [edge] using ih
    | true => simp [edge]

/-- The period that the timer has on record after the edges: the time between the last two rises.
Where there is one rise, it is the time of the rise itself if a fall came first. -/
def measured (edges : List Edge) : UInt32 :=
  match (rises edges).reverse with
  | [] => 0
  | [t] => if edges.head?.any Edge.rising then 0 else t
  | t :: t' :: _ => t - t'

theorem measured_concat_fall {edges : List Edge} {e : Edge} (h : e.rising = false) :
    measured (edges ++ [e]) = measured edges := by
  have hrises : rises (edges ++ [e]) = rises edges := by simp [rises_concat, h]
  cases edges with
  | nil => simp [measured, rises, h]
  | cons first edges =>
    rw [measured, hrises]
    rfl

theorem measured_concat_rise {edges : List Edge} {e : Edge} (h : e.rising = true)
    (hne : edges ≠ []) :
    measured (edges ++ [e]) = e.now - (rises edges).getLast?.getD 0 := by
  obtain ⟨first, rest, rfl⟩ := List.exists_cons_of_ne_nil hne
  have hreverse : (rises (first :: rest ++ [e])).reverse =
      e.now :: (rises (first :: rest)).reverse := by
    rw [rises_concat, if_pos h, List.reverse_append]
    rfl
  rw [measured, hreverse, ← List.head?_reverse]
  cases hrev : (rises (first :: rest)).reverse with
  | nil =>
    -- no rise before, so the first edge was a fall
    have hnone : rises (first :: rest) = [] := List.reverse_eq_nil_iff.mp hrev
    have hfirst : first.rising = false := by
      by_contra hrising
      rw [Bool.not_eq_false] at hrising
      simp [rises, hrising] at hnone
    simp [hfirst]
  | cons t ts => rfl

/-- As long as the number of edges has not wrapped, the period on record is the measured one. -/
theorem record_period (edges : List Edge) (few : edges.length < UInt32.size) :
    (record edges).period = measured edges := by
  induction edges using List.reverseRecOn with
  | nil => rfl
  | append_singleton edges e ih =>
    have few' : edges.length < UInt32.size := by
      rw [List.length_append] at few
      omega
    rw [record_concat]
    cases h : e.rising with
    | false =>
      rw [measured_concat_fall h]
      exact ih few'
    | true =>
      by_cases hnil : edges = []
      · subst hnil
        simp [record, edge, measured, rises, h]
      · have hpos : 0 < (record edges).edges := by
          have hlength : 0 < edges.length := List.length_pos_of_ne_nil hnil
          rw [record_edges, UInt32.lt_iff_toNat_lt, UInt32.toNat_ofNat_of_lt' few']
          exact hlength
        rw [measured_concat_rise h hnil, ← record_lastRise]
        simp [edge, hpos]

/-! ## When there is a period -/

/-- Two rises were seen, and the last two at different times. -/
def PeriodCaptured (edges : List Edge) : Prop :=
  ∃ front t t', rises edges = front ++ [t, t'] ∧ t ≠ t'

/-- One rise was seen, not at time zero, and a fall came first. -/
def RoseAfterFall (edges : List Edge) : Prop :=
  ∃ fall rest t, edges = fall :: rest ∧ fall.rising = false ∧ rises edges = [t] ∧ t ≠ 0

theorem PeriodCaptured.two_le_rises {edges : List Edge} (h : PeriodCaptured edges) :
    2 ≤ (rises edges).length := by
  obtain ⟨front, t, t', hrises, _⟩ := h
  rw [hrises, List.length_append]
  exact Nat.le_add_left 2 front.length

theorem RoseAfterFall.one_rise {edges : List Edge} (h : RoseAfterFall edges) :
    (rises edges).length = 1 := by
  obtain ⟨fall, rest, t, _, _, hrises, _⟩ := h
  rw [hrises, List.length_singleton]

theorem periodCaptured_iff {edges : List Edge} {front : List UInt32} {t t' : UInt32}
    (h : rises edges = front ++ [t, t']) : PeriodCaptured edges ↔ t ≠ t' := by
  constructor
  · rintro ⟨front', s, s', hrises, hne⟩
    have hpair := (List.append_inj' (h.symm.trans hrises) rfl).2
    simp only [List.cons.injEq, and_true] at hpair
    rw [hpair.1, hpair.2]
    exact hne
  · exact fun hne => ⟨front, t, t', h, hne⟩

theorem roseAfterFall_iff {first : Edge} {rest : List Edge} {t : UInt32}
    (h : rises (first :: rest) = [t]) :
    RoseAfterFall (first :: rest) ↔ first.rising = false ∧ t ≠ 0 := by
  constructor
  · rintro ⟨fall, rest', s, heq, hfall, hrises, hne⟩
    rw [(List.cons.inj heq).1, List.singleton_inj.mp (h.symm.trans hrises)]
    exact ⟨hfall, hne⟩
  · rintro ⟨hfall, hne⟩
    exact ⟨first, rest, t, rfl, hfall, h, hne⟩

theorem measured_ne_zero_iff (edges : List Edge) :
    measured edges ≠ 0 ↔ PeriodCaptured edges ∨ RoseAfterFall edges := by
  have hrises : rises edges = (rises edges).reverse.reverse := (List.reverse_reverse _).symm
  rw [measured]
  rcases hrev : (rises edges).reverse with _ | ⟨t', _ | ⟨t, ts⟩⟩
  · -- no rise
    rw [hrev] at hrises
    refine iff_of_false (fun hne => hne rfl) ?_
    rintro (hcaptured | hafter)
    · have htwo := hcaptured.two_le_rises
      simp [hrises] at htwo
    · have hone := hafter.one_rise
      simp [hrises] at hone
  · -- one rise
    rw [hrev, List.reverse_singleton] at hrises
    have hnone : ¬PeriodCaptured edges := by
      intro hcaptured
      have htwo := hcaptured.two_le_rises
      simp [hrises] at htwo
    rw [or_iff_right hnone]
    cases edges with
    | nil => cases hrises
    | cons first rest =>
      rw [roseAfterFall_iff hrises]
      cases hfirst : first.rising <;> simp [hfirst]
  · -- at least two rises
    rw [hrev, List.reverse_cons, List.reverse_cons, List.append_assoc] at hrises
    have hnone : ¬RoseAfterFall edges := by
      intro hafter
      have hone := hafter.one_rise
      simp [hrises] at hone
    rw [or_iff_left hnone, periodCaptured_iff hrises]
    exact (not_congr sub_eq_zero).trans ne_comm

theorem timedDuty_eq_none_iff (c : EdgeChannel) : c.timedDuty = none ↔ c.period = 0 := by
  rw [timedDuty]
  split <;> simp [*]

end EdgeChannel

/-! ## The timer and the sampler after events -/

/-- What happens at the headers. -/
inductive HeaderEvent where
  /-- An edge arrives. -/
  | edge (channel : Nat) (rising : Bool) (now : UInt32)
  /-- A sample is taken. -/
  | sample (channel : Nat)

/-- The timer of the headers and its sampler. -/
structure DutyInput where
  timer : EdgeTimer := {}
  sampler : DutySampler := {}

namespace DutyInput

/-- The edges of a header in order. -/
def edgesOn (channel : Nat) (events : List HeaderEvent) : List Edge :=
  events.filterMap fun
    | .edge c rising now => if c = channel then some ⟨rising, now⟩ else none
    | .sample _ => none

/-- An edge of a header arrived, and no sample of the header was taken since. -/
def News (channel : Nat) (events : List HeaderEvent) : Prop :=
  ∃ before rising now later,
    events = before ++ .edge channel rising now :: later ∧ .sample channel ∉ later

section Concat

variable (channel : Nat) (events : List HeaderEvent)

theorem edgesOn_concat_edge (c : Nat) (rising : Bool) (now : UInt32) :
    edgesOn channel (events ++ [.edge c rising now]) =
      if c = channel then edgesOn channel events ++ [⟨rising, now⟩] else edgesOn channel events := by
  by_cases h : c = channel <;> simp [edgesOn, h]

theorem edgesOn_concat_sample (c : Nat) :
    edgesOn channel (events ++ [.sample c]) = edgesOn channel events := by
  simp [edgesOn]

variable {channel events}

/-- Where the last event is no edge of the header, the news are older, and the event is no sample of
the header either. -/
theorem News.of_concat {e : HeaderEvent} (h : News channel (events ++ [e]))
    (hedge : ∀ rising now, e ≠ .edge channel rising now) :
    News channel events ∧ e ≠ .sample channel := by
  obtain ⟨before, rising, now, later, heq, hlater⟩ := h
  rcases List.eq_nil_or_concat later with rfl | ⟨later, last, rfl⟩
  · have hlast := (List.append_inj' heq rfl).2
    exact absurd (List.cons.inj hlast).1 (hedge rising now)
  · rw [List.concat_eq_append, ← List.cons_append, ← List.append_assoc] at heq
    obtain ⟨hfront, hlast⟩ := List.append_inj' heq rfl
    rw [(List.cons.inj hlast).1]
    rw [List.concat_eq_append, List.mem_append, not_or] at hlater
    refine ⟨⟨before, rising, now, later, hfront, hlater.1⟩, ?_⟩
    intro hsample
    exact hlater.2 (hsample ▸ List.mem_singleton_self _)

end Concat

/-- Takes an edge or a sample. -/
def take (i : DutyInput) : HeaderEvent → DutyInput
  | .edge channel rising now => { i with timer := i.timer.edge channel rising now }
  | .sample channel => { i with sampler := (i.sampler.read i.timer channel).2 }

/-- A fresh timer and a fresh sampler after events. -/
def after (events : List HeaderEvent) : DutyInput :=
  events.foldl take {}

/-- What a sample of a header gives. -/
def report (i : DutyInput) (channel : Fin headerCount) : Except SensorFault Float32 :=
  (i.sampler.read i.timer channel).1

theorem after_concat (events : List HeaderEvent) (e : HeaderEvent) :
    after (events ++ [e]) = (after events).take e := by
  simp [after]

theorem take_edge_channel (i : DutyInput) (channel : Fin headerCount) (c : Nat) (rising : Bool)
    (now : UInt32) :
    (i.take (.edge c rising now)).timer.channels.get channel =
      if c = channel then (i.timer.channels.get channel).edge rising now
      else i.timer.channels.get channel := by
  simp only [take, EdgeTimer.edge]
  by_cases hc : c = channel
  · subst hc
    rw [dif_pos channel.isLt, if_pos rfl]
    exact Vector.getElem_set_self channel.isLt
  · rw [if_neg hc]
    by_cases h : c < headerCount
    · rw [dif_pos h]
      exact Vector.getElem_set_ne h channel.isLt hc
    · rw [dif_neg h]

/-- Whatever a sample gives, the sampler remembers the number of edges of its header. -/
theorem take_sample_seen (i : DutyInput) (channel : Fin headerCount) (c : Nat) :
    (i.take (.sample c)).sampler.seen.get channel =
      if c = channel then (i.timer.channels.get channel).edges
      else i.sampler.seen.get channel := by
  have hread : ∀ h : c < headerCount, (i.sampler.read i.timer c).2.seen =
      i.sampler.seen.set c i.timer.channels[c].edges := by
    intro h
    rw [DutySampler.read, dif_pos h]
    dsimp only
    split
    · rfl
    · split <;> rfl
  by_cases hc : c = channel
  · subst hc
    rw [if_pos rfl, take, hread channel.isLt]
    exact Vector.getElem_set_self channel.isLt
  · rw [if_neg hc, take]
    by_cases h : c < headerCount
    · rw [hread h]
      exact Vector.getElem_set_ne h channel.isLt hc
    · rw [DutySampler.read, dif_neg h]

/-- The timer keeps the edges of the headers apart. -/
theorem after_channel (events : List HeaderEvent) (channel : Fin headerCount) :
    (after events).timer.channels.get channel = EdgeChannel.record (edgesOn channel events) := by
  induction events using List.reverseRecOn with
  | nil => simp [after, edgesOn, EdgeChannel.record, Vector.get]
  | append_singleton events e ih =>
    rw [after_concat]
    cases e with
    | sample c => rw [edgesOn_concat_sample]; exact ih
    | edge c rising now =>
      rw [take_edge_channel, edgesOn_concat_edge, ih]
      split
      · rw [EdgeChannel.record_concat]
      · rfl

/-- The sampler remembers the number of edges at some earlier moment, before the news if there are
any. -/
theorem after_seen (events : List HeaderEvent) (channel : Fin headerCount) :
    ∃ n ≤ (edgesOn channel events).length,
      (after events).sampler.seen.get channel = UInt32.ofNat n ∧
        (News channel events → n < (edgesOn channel events).length) := by
  induction events using List.reverseRecOn with
  | nil =>
    refine ⟨0, Nat.zero_le _, by simp [after, Vector.get], ?_⟩
    rintro ⟨before, rising, now, later, heq, _⟩
    simp at heq
  | append_singleton events e ih =>
    obtain ⟨n, hle, hseen, hnews⟩ := ih
    rw [after_concat]
    cases e with
    | edge c rising now =>
      rw [edgesOn_concat_edge]
      by_cases hc : c = channel
      · rw [if_pos hc, List.length_append, List.length_singleton]
        exact ⟨n, by omega, hseen, fun _ => by omega⟩
      · rw [if_neg hc]
        refine ⟨n, hle, hseen, fun h => hnews (h.of_concat ?_).1⟩
        rintro rising' now' heq
        exact hc (HeaderEvent.edge.inj heq).1
    | sample c =>
      rw [edgesOn_concat_sample, take_sample_seen]
      have hsample : ∀ rising now, HeaderEvent.sample c ≠ .edge channel rising now := nofun
      by_cases hc : c = channel
      · subst hc
        rw [if_pos rfl, after_channel, EdgeChannel.record_edges]
        exact ⟨_, Nat.le_refl _, rfl, fun h => absurd rfl (h.of_concat hsample).2⟩
      · rw [if_neg hc]
        exact ⟨n, hle, hseen, fun h => hnews (h.of_concat hsample).1⟩

/-! ## The report -/

theorem report_eq (i : DutyInput) (channel : Fin headerCount) :
    i.report channel =
      if (i.timer.channels.get channel).edges = i.sampler.seen.get channel then
        .ok (i.timer.channels.get channel).levelDuty
      else (i.timer.channels.get channel).timedDuty.elim (.error .noSignal) .ok := by
  have hchannel : i.timer.channels[channel.val] = i.timer.channels.get channel := rfl
  have hseen : i.sampler.seen[channel.val] = i.sampler.seen.get channel := rfl
  simp only [report, DutySampler.read, dif_pos channel.isLt, hchannel, hseen]
  split
  · rfl
  · cases (i.timer.channels.get channel).timedDuty <;> rfl

/-- A sample that sees new edges gives a duty exactly if there is a period on record. -/
theorem report_of_news {events : List HeaderEvent} {channel : Fin headerCount}
    (few : (edgesOn channel events).length < UInt32.size) (news : News channel events) :
    (after events).report channel =
      (EdgeChannel.record (edgesOn channel events)).timedDuty.elim (.error .noSignal) .ok := by
  obtain ⟨n, _, hseen, hlt⟩ := after_seen events channel
  have hmoved : (EdgeChannel.record (edgesOn channel events)).edges ≠ UInt32.ofNat n := by
    intro heq
    have hn := hlt news
    have hnat := congrArg UInt32.toNat heq
    rw [EdgeChannel.record_edges, UInt32.toNat_ofNat_of_lt' few,
      UInt32.toNat_ofNat_of_lt' (hn.trans few)] at hnat
    omega
  rw [report_eq, after_channel, hseen, if_neg hmoved]

/-- A sample that sees new edges gives a duty where the header rose twice, the last two times at
different times, and also where it rose once, not at time zero, after a fall.  Elsewhere it gives no
duty. -/
theorem duty_reported_iff (events : List HeaderEvent) (channel : Fin headerCount)
    (few : (edgesOn channel events).length < UInt32.size) (news : News channel events) :
    let edges := edgesOn channel events
    let report := (after events).report channel
    ((∃ duty, report = .ok duty) ↔
        EdgeChannel.PeriodCaptured edges ∨ EdgeChannel.RoseAfterFall edges) ∧
      (report = .error .noSignal ↔
        ¬(EdgeChannel.PeriodCaptured edges ∨ EdgeChannel.RoseAfterFall edges)) := by
  intro edges report
  have hreport : report = (EdgeChannel.record edges).timedDuty.elim (.error .noSignal) .ok :=
    report_of_news few news
  rw [← EdgeChannel.measured_ne_zero_iff, ← EdgeChannel.record_period edges few, ne_eq,
    ← EdgeChannel.timedDuty_eq_none_iff, hreport]
  cases (EdgeChannel.record edges).timedDuty <;> simp

/-- A fall and two rises around the wrap of the times, with a sample and an edge of the other header
between them. -/
def twoRises : List HeaderEvent :=
  [.edge 0 false 5, .edge 0 true 4294967290, .sample 0, .edge 1 true 7, .edge 0 true 34, .sample 1]

theorem duty_reported_iff_twoRises :
    (edgesOn 0 twoRises).length < UInt32.size ∧ News 0 twoRises ∧
      EdgeChannel.PeriodCaptured (edgesOn 0 twoRises) ∧
      ∃ duty, (after twoRises).report 0 = .ok duty := by
  have few : (edgesOn 0 twoRises).length < UInt32.size := by decide
  have news : News 0 twoRises :=
    ⟨twoRises.take 4, true, 34, [.sample 1], rfl, by simp⟩
  have captured : EdgeChannel.PeriodCaptured (edgesOn 0 twoRises) :=
    ⟨[], 4294967290, 34, rfl, by decide⟩
  exact ⟨few, news, captured, (duty_reported_iff twoRises 0 few news).1.mpr (Or.inl captured)⟩

/-- A fall and one rise. -/
def oneRise : List HeaderEvent :=
  [.edge 0 false 10, .edge 0 true 100]

/-- After one rise there is a duty of ten percent. -/
theorem duty_reported_of_one_rise :
    (edgesOn 0 oneRise).length < UInt32.size ∧ News 0 oneRise ∧
      (EdgeChannel.rises (edgesOn 0 oneRise)).length < 2 ∧ (after oneRise).report 0 = .ok 10 := by
  have news : News 0 oneRise := ⟨[.edge 0 false 10], true, 100, [], rfl, List.not_mem_nil⟩
  have report : (after oneRise).report 0 = .ok 10 := by decide
  exact ⟨by decide, news, by decide, report⟩

end DutyInput

end FanBoard
