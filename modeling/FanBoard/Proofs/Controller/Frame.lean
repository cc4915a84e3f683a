import FanBoard.Controller

/-!
# What the small steps of the controller leave alone

Logging, taking over what the hardware did, and counting touch one part of the controller each.
These lemmas say so, field by field, for `simp`.
-/

namespace FanBoard.Controller

variable {β α : Type} (c : Controller β)

section Note

variable (level : Log.Level) (message : String)

@[simp] theorem note_board : (c.note level message).board = c.board := rfl

@[simp] theorem note_settings : (c.note level message).settings = c.settings := rfl

@[simp] theorem note_signals : (c.note level message).signals = c.signals := rfl

end Note

section After

variable (o : Outcome β α)

@[simp] theorem after_board : (c.after o).board = o.state := rfl

@[simp] theorem after_settings : (c.after o).settings = c.settings := rfl

@[simp] theorem after_signals : (c.after o).signals = c.signals := rfl

end After

section Failure

variable (source : String) (f : Fault)

@[simp] theorem recordFailure_board : (c.recordFailure source f).board = c.board := by
  cases f <;> rfl

@[simp] theorem recordFailure_settings : (c.recordFailure source f).settings = c.settings := by
  cases f <;> rfl

@[simp] theorem recordFailure_signals : (c.recordFailure source f).signals = c.signals := by
  cases f <;> rfl

end Failure

@[simp] theorem countWrite_board : c.countWrite.board = c.board := rfl

@[simp] theorem countWrite_settings : c.countWrite.settings = c.settings := rfl

@[simp] theorem countWrite_signals : c.countWrite.signals = c.signals := rfl

end FanBoard.Controller
