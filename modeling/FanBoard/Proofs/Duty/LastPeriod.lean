import FanBoard.Proofs.Duty.Period
import Mathlib.Data.List.Chain

/-!
# The period and the high time of a duty

A line that turns over at every edge has periods, each from a rise over a fall to the next rise.  The
timer has the length of the last complete period on record.  But it takes the high time at every fall,
so after the fall that follows the last period it has the high time of the pulse that this fall ends.

* `Wave` is such a line, with times that do not wrap, and `Period` one of its periods.
  `Wave.exists_lastPeriod` finds the last one: at most a fall comes after it.
* `record_high_of_rise` and `record_high_of_fall` are the two high times that may be on record.
* `duty_of_last_period_iff` says what a sample gives, and when it is the duty of the last period.
  `duty_of_longer_pulse` is a sample that gives another one.
-/

namespace FanBoard

/-! ## Lines with periods -/

/-- An edge with its time on a clock that does not wrap. -/
structure TimedEdge where
  rising : Bool
  time : Nat
deriving DecidableEq

/-- The edge as the timer sees it. -/
def TimedEdge.wrapped (e : TimedEdge) : Edge :=
  ⟨e.rising, UInt32.ofNat e.time⟩

/-- A line that is low at first and turns over at each edge.  Time goes forward, and a period takes at
least a microsecond and less than the timer needs to wrap. -/
structure Wave (signal : List TimedEdge) : Prop where
  first : ∀ e ∈ signal.head?, e.rising = true
  turns : signal.IsChain fun e e' => e'.rising = !e.rising
  forward : signal.IsChain fun e e' => e.time ≤ e'.time
  period : ∀ front rise fall rise' back, signal = front ++ [rise, fall, rise'] ++ back →
    rise.rising = true → 1 ≤ rise'.time - rise.time ∧ rise'.time - rise.time < UInt32.size

/-- The times of a rise, of the fall after it, and of the next rise. -/
structure Period where
  rise : Nat
  fall : Nat
  next : Nat

namespace Period

def edges (p : Period) : List TimedEdge :=
  [⟨true, p.rise⟩, ⟨false, p.fall⟩, ⟨true, p.next⟩]

def length (p : Period) : Nat :=
  p.next - p.rise

/-- The duty in percent of a high time in a period of this length. -/
def dutyOf (p : Period) (high : Nat) : Float32 :=
  Single.clamp (Single.ofNat high * 100 / Single.ofNat p.length) 0 100

/-- The duty in percent of the period. -/
def duty (p : Period) : Float32 :=
  p.dutyOf (p.fall - p.rise)

/-- The period is the last one that is complete: no rise comes after it. -/
def IsLast (p : Period) (signal rest : List TimedEdge) : Prop :=
  (∃ front, signal = front ++ p.edges ++ rest) ∧ ∀ e ∈ rest, e.rising = false

end Period

namespace Wave

variable {signal : List TimedEdge}

theorem of_concat {e : TimedEdge} (h : Wave (signal ++ [e])) : Wave signal where
  first e' he' := h.first e' (by
    cases signal with
    | nil => cases he'
    | cons e'' signal => exact he')
  turns := h.turns.left_of_append
  forward := h.forward.left_of_append
  period front rise fall rise' back heq :=
    h.period front rise fall rise' (back ++ [e]) (by rw [heq, List.append_assoc])

/-- The edge before a fall rises, and the edge before a rise falls. -/
theorem turned {e e' : TimedEdge} (h : Wave (signal ++ [e] ++ [e'])) : e'.rising = !e.rising := by
  have hpair := (List.isChain_append.mp h.turns).2.2
  exact hpair e (by simp) e' rfl

/-- A line that ends with a rise, and had an edge before, ends with a period. -/
theorem exists_period {e : TimedEdge} (h : Wave (signal ++ [e])) (hrising : e.rising = true)
    (hbefore : signal ≠ []) : ∃ front p, signal ++ [e] = front ++ Period.edges p := by
  rcases List.eq_nil_or_concat signal with rfl | ⟨signal, fall, rfl⟩
  · exact absurd rfl hbefore
  · rw [List.concat_eq_append] at h ⊢
    have hfall : fall.rising = false := by simpa [hrising] using h.turned
    rcases List.eq_nil_or_concat signal with rfl | ⟨front, rise, rfl⟩
    · -- the line cannot begin with the fall
      have hfirst := h.first fall rfl
      rw [hfall] at hfirst
      cases hfirst
    · rw [List.concat_eq_append] at h ⊢
      have hrise : rise.rising = true := by simpa [hfall] using h.of_concat.turned
      obtain ⟨_, time⟩ := rise
      obtain ⟨_, time'⟩ := fall
      obtain ⟨_, time''⟩ := e
      subst hrise hfall hrising
      exact ⟨front, ⟨time, time', time''⟩, by simp [Period.edges]⟩

/-- A line that rose twice has a last period. -/
theorem exists_lastPeriod (h : Wave signal) (two : 2 ≤ signal.countP TimedEdge.rising) :
    ∃ p rest, Period.IsLast p signal rest := by
  -- a line with two rises that ends with a rise has an edge before it
  have hperiod : ∀ {front e}, Wave (front ++ [e]) → e.rising = true →
      2 ≤ (front ++ [e]).countP TimedEdge.rising →
        ∃ front' p, front ++ [e] = front' ++ Period.edges p := by
    intro front e hwave hrising htwo
    refine hwave.exists_period hrising fun hnil => ?_
    subst hnil
    simp [hrising] at htwo
  rcases List.eq_nil_or_concat signal with rfl | ⟨front, e, rfl⟩
  · simp at two
  · rw [List.concat_eq_append] at h two ⊢
    cases hrising : e.rising with
    | true =>
      -- the period ends the line
      obtain ⟨front', p, heq⟩ := hperiod h hrising two
      exact ⟨p, [], ⟨front', by simp [heq]⟩, nofun⟩
    | false =>
      -- the edge before the fall rises, and ends the period
      rcases List.eq_nil_or_concat front with rfl | ⟨front, e', rfl⟩
      · simp [hrising] at two
      · rw [List.concat_eq_append] at h two ⊢
        have hrising' : e'.rising = true := by simpa [hrising] using h.turned
        have htwo : 2 ≤ (front ++ [e']).countP TimedEdge.rising := by
          simpa [List.countP_append, List.countP_cons, hrising] using two
        obtain ⟨front', p, heq⟩ := hperiod h.of_concat hrising' htwo
        exact ⟨p, [e], ⟨front', by rw [heq]⟩, by simpa using hrising⟩

end Wave

/-! ## What the timer has on record -/

theorem toNat_ofNat_sub_ofNat {a b : Nat} (h : a ≤ b) :
    (UInt32.ofNat b - UInt32.ofNat a).toNat = (b - a) % UInt32.size := by
  rw [← UInt32.ofNat_sub h]
  exact UInt32.toNat_ofNat'

namespace EdgeChannel

theorem rises_append (edges edges' : List Edge) :
    rises (edges ++ edges') = rises edges ++ rises edges' := by
  simp [rises]

theorem measured_of_rises {edges : List Edge} {front : List UInt32} {t t' : UInt32}
    (h : rises edges = front ++ [t, t']) : measured edges = t' - t := by
  rw [measured, h, List.reverse_append]
  rfl

/-- After a rise the high time on record is that of the period before it. -/
theorem record_high_of_rise (front : List Edge) (rise fall rise' : UInt32) :
    (record (front ++ [⟨true, rise⟩, ⟨false, fall⟩, ⟨true, rise'⟩])).high = fall - rise := by
  simp [record, edge]

/-- After a fall the high time on record is that of the pulse that it ends. -/
theorem record_high_of_fall (front : List Edge) (rise fall : UInt32) :
    (record (front ++ [⟨true, rise⟩, ⟨false, fall⟩])).high = fall - rise := by
  simp [record, edge]

theorem timedDuty_eq_dutyOf {c : EdgeChannel} {p : Period} (hpos : 1 ≤ p.length)
    (hlt : p.length < UInt32.size)
    (hperiod : c.period = UInt32.ofNat p.next - UInt32.ofNat p.rise) :
    c.timedDuty = some (p.dutyOf c.high.toNat) := by
  have hle : p.rise ≤ p.next := by
    rw [Period.length] at hpos
    omega
  have htoNat : c.period.toNat = p.length := by
    rw [hperiod, toNat_ofNat_sub_ofNat hle]
    exact Nat.mod_eq_of_lt hlt
  have hne : c.period ≠ 0 := by
    intro hzero
    rw [hzero] at htoNat
    exact absurd htoNat (Nat.ne_of_lt hpos)
  rw [timedDuty, if_neg hne, htoNat]
  rfl

end EdgeChannel

namespace Period

variable {p : Period} {signal rest : List TimedEdge}

theorem IsLast.period_bounds (h : p.IsLast signal rest) (hwave : Wave signal) :
    1 ≤ p.length ∧ p.length < UInt32.size := by
  obtain ⟨⟨front, rfl⟩, _⟩ := h
  exact hwave.period front _ _ _ rest rfl rfl

/-- At most a fall comes after the last period. -/
theorem IsLast.rest_cases (h : p.IsLast signal rest) (hwave : Wave signal) :
    rest = [] ∨ ∃ time, rest = [⟨false, time⟩] := by
  obtain ⟨⟨front, rfl⟩, hfalls⟩ := h
  rcases rest with _ | ⟨⟨rising, time⟩, _ | ⟨e', rest⟩⟩
  · exact Or.inl rfl
  · obtain rfl : rising = false := hfalls _ List.mem_cons_self
    exact Or.inr ⟨time, rfl⟩
  · have hturned := (List.isChain_cons_cons.mp hwave.turns.right_of_append).1
    obtain rfl : rising = false := hfalls _ List.mem_cons_self
    rw [hfalls e' (List.mem_cons_of_mem _ List.mem_cons_self)] at hturned
    cases hturned

theorem IsLast.forward (h : p.IsLast signal rest) (hwave : Wave signal) :
    (p.edges ++ rest).IsChain fun e e' => e.time ≤ e'.time := by
  obtain ⟨⟨front, rfl⟩, _⟩ := h
  have hforward := hwave.forward
  rw [List.append_assoc] at hforward
  exact hforward.right_of_append

/-- The length of the last period is on record. -/
theorem IsLast.record_period (h : p.IsLast signal rest) (few : signal.length < UInt32.size) :
    (EdgeChannel.record (signal.map TimedEdge.wrapped)).period =
      UInt32.ofNat p.next - UInt32.ofNat p.rise := by
  obtain ⟨⟨front, rfl⟩, hrest⟩ := h
  have hnone : EdgeChannel.rises (rest.map TimedEdge.wrapped) = [] := by
    simpa [EdgeChannel.rises, TimedEdge.wrapped] using hrest
  have hrises : EdgeChannel.rises ((front ++ p.edges ++ rest).map TimedEdge.wrapped) =
      EdgeChannel.rises (front.map TimedEdge.wrapped) ++
        [UInt32.ofNat p.rise, UInt32.ofNat p.next] := by
    rw [List.map_append, List.map_append, EdgeChannel.rises_append, EdgeChannel.rises_append, hnone,
      List.append_nil]
    rfl
  rw [EdgeChannel.record_period _ (by rwa [List.length_map])]
  exact EdgeChannel.measured_of_rises hrises

/-- Where the last period ends the line, its high time is on record. -/
theorem IsLast.record_high_of_rise (h : p.IsLast signal []) (hwave : Wave signal) :
    (EdgeChannel.record (signal.map TimedEdge.wrapped)).high.toNat = p.fall - p.rise := by
  have hforward := h.forward hwave
  simp only [edges, List.append_nil, List.isChain_cons_cons] at hforward
  obtain ⟨hrise, hfall, _⟩ := hforward
  have hlt := (h.period_bounds hwave).2
  rw [length] at hlt
  obtain ⟨⟨front, rfl⟩, _⟩ := h
  rw [List.append_nil, List.map_append]
  refine (congrArg UInt32.toNat (EdgeChannel.record_high_of_rise _ _ _ _)).trans ?_
  rw [toNat_ofNat_sub_ofNat hrise]
  exact Nat.mod_eq_of_lt (by omega)

/-- Where the line fell since the last period, the time that it was high since is on record. -/
theorem IsLast.record_high_of_fall {time : Nat} (h : p.IsLast signal [⟨false, time⟩])
    (hwave : Wave signal) : (EdgeChannel.record (signal.map TimedEdge.wrapped)).high.toNat =
      (time - p.next) % UInt32.size := by
  have hforward := h.forward hwave
  simp only [edges, List.cons_append, List.nil_append, List.isChain_cons_cons] at hforward
  obtain ⟨_, _, hpulse, _⟩ := hforward
  obtain ⟨⟨front, rfl⟩, _⟩ := h
  have hsplit : front ++ p.edges ++ [⟨false, time⟩] =
      front ++ [⟨true, p.rise⟩, ⟨false, p.fall⟩] ++ [⟨true, p.next⟩, ⟨false, time⟩] := by
    simp [edges]
  rw [hsplit, List.map_append]
  refine (congrArg UInt32.toNat (EdgeChannel.record_high_of_fall _ _ _)).trans ?_
  exact toNat_ofNat_sub_ofNat hpulse

end Period

/-! ## The sample -/

namespace DutyInput

/-- A line that rose twice has a last period.  A sample that sees new edges gives a duty over the length
of this period.  After a rise it is the duty of the period.  After a fall it is the duty of the pulse
that the fall ended, and so the duty of the period only where the two agree. -/
theorem duty_of_last_period_iff (events : List HeaderEvent) (channel : Fin headerCount)
    (signal : List TimedEdge) (hsignal : edgesOn channel events = signal.map TimedEdge.wrapped)
    (wave : Wave signal) (few : signal.length < UInt32.size) (news : News channel events)
    (two : 2 ≤ signal.countP TimedEdge.rising) :
    let report := (after events).report channel
    (∃ p rest, Period.IsLast p signal rest) ∧
      ∀ p rest, Period.IsLast p signal rest →
        rest = [] ∧ report = .ok p.duty ∨
          ∃ time, rest = [⟨false, time⟩] ∧
            let pulse := p.dutyOf ((time - p.next) % UInt32.size)
            report = .ok pulse ∧ (report = .ok p.duty ↔ pulse = p.duty) := by
  intro report
  refine ⟨wave.exists_lastPeriod two, fun p rest hlast => ?_⟩
  have hreport : report =
      .ok (p.dutyOf (EdgeChannel.record (signal.map TimedEdge.wrapped)).high.toNat) := by
    obtain ⟨hpos, hlt⟩ := hlast.period_bounds wave
    have hduty := EdgeChannel.timedDuty_eq_dutyOf hpos hlt (hlast.record_period few)
    have hfew : (edgesOn channel events).length < UInt32.size := by
      rwa [hsignal, List.length_map]
    rw [← hsignal] at hduty ⊢
    rw [show report = _ from report_of_news hfew news, hduty]
    rfl
  rcases hlast.rest_cases wave with rfl | ⟨time, rfl⟩
  · rw [hlast.record_high_of_rise wave] at hreport
    exact Or.inl ⟨rfl, hreport⟩
  · rw [hlast.record_high_of_fall wave] at hreport
    refine Or.inr ⟨time, rfl, hreport, ?_⟩
    rw [hreport, Except.ok.injEq]

/-- A period and one more pulse. -/
def periodAndPulse (p : Period) (time : Nat) : List TimedEdge :=
  p.edges ++ [⟨false, time⟩]

theorem wave_periodAndPulse {p : Period} {time : Nat} (hrise : p.rise ≤ p.fall)
    (hfall : p.fall ≤ p.next) (hpulse : p.next ≤ time) (hpos : 1 ≤ p.length)
    (hlt : p.length < UInt32.size) : Wave (periodAndPulse p time) where
  first := by simp [periodAndPulse, Period.edges]
  turns := by simp [periodAndPulse, Period.edges]
  forward := by simp [periodAndPulse, Period.edges, *]
  period front rise fall rise' back heq hrising := by
    have hlength := congrArg List.length heq
    simp only [periodAndPulse, Period.edges, List.length_append, List.length_cons, List.length_nil]
      at hlength
    -- three edges in a row begin at the first of the four or at the second, which falls
    rcases front with _ | ⟨first, _ | ⟨second, front⟩⟩
    · obtain ⟨rfl, _, rfl, _⟩ := by
        simpa [periodAndPulse, Period.edges] using heq
      exact ⟨hpos, hlt⟩
    · obtain ⟨_, rfl, _⟩ := by
        simpa [periodAndPulse, Period.edges] using heq
      cases hrising
    · simp only [List.length_cons] at hlength
      omega

/-- A steady line whose times pass the wrap, with samples and an edge of the other header. -/
def steady : List HeaderEvent :=
  [.edge 0 true 4294967250, .edge 0 false 4294967260, .sample 0, .edge 0 true 4294967290,
    .edge 1 true 9, .edge 0 false 4, .sample 1]

theorem duty_of_last_period_iff_steady :
    let p : Period := ⟨4294967250, 4294967260, 4294967290⟩
    let signal := periodAndPulse p 4294967300
    edgesOn 0 steady = signal.map TimedEdge.wrapped ∧ Wave signal ∧ News 0 steady ∧
      2 ≤ signal.countP TimedEdge.rising ∧ p.IsLast signal [⟨false, 4294967300⟩] ∧
      (after steady).report 0 = .ok p.duty := by
  intro p signal
  have news : News 0 steady := ⟨steady.take 5, false, 4, [.sample 1], rfl, by simp⟩
  have wave : Wave signal :=
    wave_periodAndPulse (by decide) (by decide) (by decide) (by decide) (by decide)
  have last : p.IsLast signal [⟨false, 4294967300⟩] := ⟨⟨[], rfl⟩, by simp⟩
  refine ⟨rfl, wave, news, by decide, last, ?_⟩
  obtain ⟨hnone, _⟩ | ⟨time, htime, _, hiff⟩ :=
    (duty_of_last_period_iff steady 0 signal rfl wave (by decide) news (by decide)).2 p _ last
  · cases hnone
  · obtain ⟨⟨_, rfl⟩, _⟩ := List.cons.inj htime
    have hhigh : (4294967300 - 4294967290) % UInt32.size = 4294967260 - 4294967250 := by decide
    exact hiff.mpr (congrArg p.dutyOf hhigh)

/-- A line that is high for ten of forty microseconds and then for thirty. -/
def widened : List HeaderEvent :=
  [.edge 0 true 0, .edge 0 false 10, .edge 0 true 40, .edge 0 false 70]

/-- The last period has a duty of 25 percent, and the sample after the next fall gives 75. -/
theorem duty_of_longer_pulse :
    let p : Period := ⟨0, 10, 40⟩
    edgesOn 0 widened = (periodAndPulse p 70).map TimedEdge.wrapped ∧ Wave (periodAndPulse p 70) ∧
      News 0 widened ∧ p.IsLast (periodAndPulse p 70) [⟨false, 70⟩] ∧
      p.duty = 25 ∧ (after widened).report 0 = .ok 75 := by
  refine ⟨rfl, wave_periodAndPulse ?_ ?_ ?_ ?_ ?_, ⟨widened.take 3, false, 70, [], rfl, by simp⟩,
    ⟨⟨[], rfl⟩, by simp⟩, ?_, ?_⟩
  all_goals decide

end DutyInput

end FanBoard
