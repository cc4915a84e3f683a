import FanBoard.Proofs.Json.Document
import FanBoard.Proofs.Json.Single
import FanBoard.Proofs.Settings.Check
import FanBoard.Proofs.Settings.Partial
import FanBoard.Settings.Document

/-!
# Settings survive writing and reading

Settings are written as a compact document, and the document is read over the defaults.  Every field
is written, so nothing of the defaults stays.

* `Json.isWord_ofNat` and `Json.ofSingle_spec`: what is written for one field says its value.
* `Settings.wellFormed_toJson`: the document can be read at all.
* `Settings.spelledBy_toJson`: the document gives every one of the settings.
* `Settings.parse_render`: settings that the check accepts are read as they were written.
-/

namespace FanBoard

open Json (WellFormed)

/-! ## Values -/

namespace Json

theorem ofSingle_spec {x : Float32} (hfinite : x.isFinite = true) (hnonneg : 0 ≤ x) :
    WellFormed (ofSingle x) ∧ (ofSingle x).IsSingle x := by
  obtain ⟨l, hl, hformed, hread⟩ := Literal.single?_ofSingle hfinite hnonneg
  rw [ofSingle, hl, WellFormed]
  exact ⟨hformed, l, rfl, hread⟩

theorem isNatural_ofNat (n : Nat) : (ofNat n).IsNatural n :=
  ⟨Digit.ofNat n, rfl, Digit.toNat_ofNat n⟩

theorem isWord_ofNat (n : UInt32) : (ofNat n.toNat).IsWord n :=
  isNatural_ofNat n.toNat

end Json

/-! ## Records -/

theorem Intervals.wellFormed_toJson (i : Intervals) : WellFormed i.toJson := by
  refine Json.wellFormed_ofMembers ?_
  simp only [List.forall_mem_cons, Json.wellFormed_ofNat, true_and]
  exact nofun

/-- The document gives every one of the intervals. -/
theorem Intervals.spelledBy_toJson (i : Intervals) : Intervals.SpelledBy i.toJson i where
  isRecord := Json.isRecord_ofMembers _ Intervals.names_nodup
  networkPoll := Json.isWord_ofNat _
  statusLed := Json.isWord_ofNat _
  display := Json.isWord_ofNat _
  inputDuty := Json.isWord_ofNat _
  temperature := Json.isWord_ofNat _
  inputTach := Json.isWord_ofNat _
  outputUpdate := Json.isWord_ofNat _

section

variable {t : Thresholds} (h : ∀ x ∈ t.toList, x.isFinite = true ∧ 0 ≤ x)

include h

theorem Thresholds.wellFormed_toJson : WellFormed t.toJson := by
  have hformed : ∀ x ∈ t.toList, WellFormed (.ofSingle x) :=
    fun x hx => (Json.ofSingle_spec (h x hx).1 (h x hx).2).1
  refine Json.wellFormed_ofMembers ?_
  simpa [Thresholds.toList] using hformed

/-- The document gives every one of the thresholds if they are finite and not negative. -/
theorem Thresholds.spelledBy_toJson : Thresholds.SpelledBy t.toJson t := by
  have hsingle : ∀ x ∈ t.toList, (Json.ofSingle x).IsSingle x :=
    fun x hx => (Json.ofSingle_spec (h x hx).1 (h x hx).2).2
  simp only [Thresholds.toList, List.forall_mem_cons] at hsingle
  obtain ⟨hinputDuty, houtputDuty, hinputTach, houtputTach, htemperature, -⟩ := hsingle
  exact ⟨Json.isRecord_ofMembers _ Thresholds.names_nodup, hinputDuty, houtputDuty, hinputTach,
    houtputTach, htemperature⟩

end

/-! ## Settings -/

namespace Settings

variable {s : Settings}

theorem ofCode_code (mode : LedMode) : LedMode.ofCode mode.code = mode := by
  cases mode <;> rfl

/-- The document of settings without a defect can be read. -/
theorem wellFormed_toJson (h : s.Sound) : WellFormed s.toJson := by
  refine Json.wellFormed_ofMembers ?_
  simp only [List.forall_mem_cons, Json.wellFormed_ofNat, Intervals.wellFormed_toJson,
    Thresholds.wellFormed_toJson h.thresholds, WellFormed, true_and]
  exact nofun

/-- The document of settings without a defect gives every one of them. -/
theorem spelledBy_toJson (h : s.Sound) : SpelledBy s.toJson s where
  isRecord := Json.isRecord_ofMembers _ names_nodup
  localEcho := rfl
  consoleWait := Json.isWord_ofNat _
  ledMode := ⟨s.ledMode.code, by cases s.ledMode <;> decide, Json.isNatural_ofNat _,
    (ofCode_code s.ledMode).symm⟩
  thresholds := Thresholds.spelledBy_toJson h.thresholds
  intervals := Intervals.spelledBy_toJson s.intervals
  tachWindow := Json.isWord_ofNat _
  lockoutTimeout := Json.isWord_ofNat _
  watchdogTimeout := Json.isWord_ofNat _

/-- Settings that the check accepts are read as they were written. -/
theorem parse_render (h : s.check = .ok s) : parse s.render = .ok s := by
  have hsound : s.Sound := ((defect?_eq_none_iff s).mp ((check_eq_ok s).mp h)).1
  rw [parse, render, Json.read?_compact (wellFormed_toJson hsound), Option.bind_some,
    ofJson?_spelledBy (spelledBy_toJson hsound)]
  simp only [h]
  rfl

/-- Settings at the ends of the ranges.  The thresholds are the least positive single, minus zero, a
single whose decimal is a near miss, and the greatest finite one. -/
def extreme : Settings where
  localEcho := true
  consoleWait := 4294967295
  ledMode := .alwaysOff
  thresholds :=
    { inputDuty := .ofModel (.pack (.finite .positive 1 (-149) (by decide)))
      outputDuty := -0
      inputTach := .ofModel (.pack (.finite .positive 12755794 (-122) (by decide)))
      outputTach := .ofModel (.pack (.finite .positive 16777215 104 (by decide))) }
  tachWindow := 1
  lockoutTimeout := 2147483647
  watchdogTimeout := 4294967294

theorem parse_render_extreme :
    extreme.check = .ok extreme ∧ parse extreme.render = .ok extreme := by
  have haccepted : extreme.check = .ok extreme := (check_eq_ok extreme).mpr (by decide)
  exact ⟨haccepted, parse_render haccepted⟩

end Settings

end FanBoard
