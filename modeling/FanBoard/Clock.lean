/-!
# Time

Times are microseconds in 64 bits, held as natural numbers.  A difference of two times is the
truncated difference: where the clock went back, no time has passed.

A `Clock` is the sequence of the readings that it will give.  Every read takes the next one.  This
covers a clock that stands still between two settings as well as one that runs while it is read.
-/

namespace FanBoard

/-- A source of time: the reading that each read gives, and the number of reads so far. -/
structure Clock where
  /-- The reading of each read, counted from zero. -/
  reading : Nat → Nat
  /-- The number of reads so far. -/
  reads : Nat := 0

namespace Clock

/-- The reading that the next read gives. -/
def now (c : Clock) : Nat :=
  c.reading c.reads

def read (c : Clock) : Nat × Clock :=
  (c.now, { c with reads := c.reads + 1 })

/-- A clock at `start` that advances by `step` after every read and wraps at 64 bits. -/
def stepping (start step : Nat) : Clock where
  reading n := (start + n * step) % UInt64.size

end Clock

/-- A time moved on by `us` microseconds, wrapped at 64 bits. -/
def advance (now us : Nat) : Nat :=
  (now + us) % UInt64.size

end FanBoard
