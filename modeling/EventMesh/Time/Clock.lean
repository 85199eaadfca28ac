import EventMesh.Time.Duration
import EventMesh.Time.Wall

/-!
Two clocks: one that only runs forward and measures deadlines, and the time of day, which may also
jump. Main statement: advancing never moves the running clock back (`mono_le_advance`).
-/

namespace EventMesh.Time

/-- A reading of the running clock, in nanoseconds since it was started. -/
structure Instant where
  nanos : Nat
  deriving DecidableEq

namespace Instant

/-- Readings from here on cannot be represented. -/
def bound : Nat := 0x8000000000000000 * nanosPerSecond

def zero : Instant := ⟨0⟩

instance : LE Instant := ⟨fun a b => a.nanos ≤ b.nanos⟩

instance (a b : Instant) : Decidable (a ≤ b) := inferInstanceAs (Decidable (a.nanos ≤ b.nanos))

/-- The earlier of two readings. -/
def earlier (a b : Instant) : Instant := if a ≤ b then a else b

/-- The reading a span later, if it can be represented. -/
def add? (a : Instant) (d : Duration) : Option Instant :=
  if a.nanos + d.nanos < bound then some ⟨a.nanos + d.nanos⟩ else none

/-- The time gone by since an earlier reading. -/
def since (now earlier : Instant) : Nat := now.nanos - earlier.nanos

/-- Thirty years later: when a sleep ends whose own end cannot be represented. -/
def farFuture (a : Instant) : Instant := ⟨a.nanos + 86400 * 365 * 30 * nanosPerSecond⟩

/-- Whole milliseconds since the clock was started. -/
def millis (a : Instant) : Nat := a.nanos / 1000000

end Instant

/-- The time of day and the running clock, read together. -/
structure Clock where
  wall : Wall
  mono : Instant
  deriving DecidableEq

namespace Clock

/-- A clock that starts at the given time of day. -/
def startingAt (w : Wall) : Clock := ⟨w, .zero⟩

/-- Both clocks so many nanoseconds later. -/
def advance (c : Clock) (nanos : Nat) : Clock :=
  ⟨c.wall.shift nanos, ⟨c.mono.nanos + nanos⟩⟩

/-- The time of day set forward or back. -/
def jump (c : Clock) (nanos : Int) : Clock := { c with wall := c.wall.shift nanos }

theorem mono_le_advance (c : Clock) (n : Nat) : c.mono ≤ (c.advance n).mono :=
  Nat.le_add_right _ _

end Clock

end EventMesh.Time
