import FanBoard.Terminal.Pump

/-!
# What a pump keeps

A pump reads bytes and has events carried out, and nothing else.

* `pump_carries`: what finding nothing and taking a byte keep, the pump keeps.
* `pump_keeps`: what reading and carrying out events keep, the pump keeps.
* `pump_hom`: where two wires read alike and carry out events alike, up to a function between their
  states, they pump alike up to that function.
-/

namespace FanBoard.Wire

variable {ω : Type}

/-! ## Byte by byte -/

/-- Feeds one byte of a pump to the editor and hands a full line out. -/
def take (wire : Wire ω) (e : LineEditor) (w : ω) (b : UInt8) : LineEditor × ω :=
  let (e, w) := wire.feed e w b
  wire.flush e w

section Unfold

variable {wire : Wire ω} {w w' : ω}

theorem pumpUpTo_none (h : wire.readByte w = (none, w')) (limit taken : Nat) (e : LineEditor) :
    wire.pumpUpTo (limit + 1) taken e w = (taken, e, w') := by
  rw [pumpUpTo, h]

theorem pumpUpTo_some {b : UInt8} (h : wire.readByte w = (some b, w')) (limit taken : Nat)
    (e : LineEditor) :
    wire.pumpUpTo (limit + 1) taken e w =
      wire.pumpUpTo limit (taken + 1) (wire.take e w' b).1 (wire.take e w' b).2 := by
  rw [pumpUpTo, h]
  rfl

end Unfold

/-! ## What is kept -/

variable {P : ω → Prop}

theorem performAll_keeps {wire : Wire ω} (hperform : ∀ w event, P w → P (wire.perform w event))
    {w : ω} (h : P w) (events : List Event) : P (wire.performAll w events) := by
  induction events generalizing w with
  | nil => exact h
  | cons event events ih => exact ih (hperform w event h)

section Carries

variable {wire : Wire ω} {P : LineEditor → ω → Prop} {e : LineEditor} {w : ω}
  (hnone : ∀ {e w w'}, wire.readByte w = (none, w') → P e w → P e w')
  (hsome : ∀ {e w w' b}, wire.readByte w = (some b, w') → P e w →
    P (wire.take e w' b).1 (wire.take e w' b).2)

include hnone hsome

theorem pumpUpTo_carries (limit taken : Nat) (h : P e w) :
    P (wire.pumpUpTo limit taken e w).2.1 (wire.pumpUpTo limit taken e w).2.2 := by
  induction limit generalizing taken e w with
  | zero => exact h
  | succ limit ih =>
    rcases hbyte : wire.readByte w with ⟨_ | b, w'⟩
    · rw [pumpUpTo_none hbyte]
      exact hnone hbyte h
    · rw [pumpUpTo_some hbyte]
      exact ih (taken + 1) (hsome hbyte h)

/-- What finding nothing to read and taking one byte keep, of the editor and of what it works on, a pump
keeps. -/
theorem pump_carries (h : P e w) : P (wire.pump e w).2.1 (wire.pump e w).2.2 :=
  pumpUpTo_carries (P := P) hnone hsome pumpLimit 0 h

end Carries

/-- What reading a byte and carrying out an event keep, a pump keeps. -/
theorem pump_keeps {wire : Wire ω} (hread : ∀ w, P w → P (wire.readByte w).2)
    (hperform : ∀ w event, P w → P (wire.perform w event)) (e : LineEditor) {w : ω} (h : P w) :
    P (wire.pump e w).2.2 := by
  have hbyte : ∀ {w w' : ω} {b : Option UInt8}, wire.readByte w = (b, w') → P w → P w' := by
    intro w w' b hbyte hw
    have hw' := hread w hw
    rwa [hbyte] at hw'
  refine pump_carries (P := fun _ => P) hbyte ?_ h
  intro e w w' b hsome hw
  exact performAll_keeps hperform (performAll_keeps hperform (hbyte hsome hw) _) _

/-! ## Wires that do alike -/

section Hom

variable {ω' : Type} {wire : Wire ω} {wire' : Wire ω'} {f : ω → ω'}

theorem performAll_hom (hperform : ∀ w event, wire'.perform (f w) event = f (wire.perform w event))
    (w : ω) (events : List Event) :
    wire'.performAll (f w) events = f (wire.performAll w events) :=
  List.foldl_hom f hperform

theorem pumpUpTo_hom
    (hread : ∀ w, wire'.readByte (f w) = ((wire.readByte w).1, f (wire.readByte w).2))
    (hperform : ∀ w event, wire'.perform (f w) event = f (wire.perform w event))
    (limit taken : Nat) (e : LineEditor) (w : ω) :
    wire'.pumpUpTo limit taken e (f w) =
      let r := wire.pumpUpTo limit taken e w
      (r.1, r.2.1, f r.2.2) := by
  induction limit generalizing taken e w with
  | zero => rfl
  | succ limit ih =>
    rcases hbyte : wire.readByte w with ⟨_ | b, w'⟩
    · rw [pumpUpTo_none hbyte, pumpUpTo_none (by rw [hread, hbyte])]
    · rw [pumpUpTo_some hbyte, pumpUpTo_some (by rw [hread, hbyte])]
      simp only [take, feed, flush, performAll_hom hperform]
      exact ih _ _ _

/-- Wires that read and carry out events alike pump alike. -/
theorem pump_hom
    (hread : ∀ w, wire'.readByte (f w) = ((wire.readByte w).1, f (wire.readByte w).2))
    (hperform : ∀ w event, wire'.perform (f w) event = f (wire.perform w event))
    (e : LineEditor) (w : ω) :
    wire'.pump e (f w) =
      let r := wire.pump e w
      (r.1, r.2.1, f r.2.2) :=
  pumpUpTo_hom hread hperform pumpLimit 0 e w

end Hom

end FanBoard.Wire
