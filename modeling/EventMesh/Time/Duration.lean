import EventMesh.Decimal.Digits

/-!
Spans of time in nanoseconds, below `2^64` seconds.
-/

namespace EventMesh.Time

def nanosPerSecond : Nat := 1000000000

/-- Nanoseconds from here on no span can hold. -/
def durationBound : Nat := 0x10000000000000000 * nanosPerSecond

/-- A span of time. -/
structure Duration where
  nanos : Nat
  nanos_lt : nanos < durationBound := by decide
  deriving DecidableEq

namespace Duration

def zero : Duration := { nanos := 0 }

/-- The longest span. -/
def max : Duration := { nanos := durationBound - 1 }

/-- The span of so many nanoseconds, or the longest span if it is too short. -/
def saturating (n : Nat) : Duration :=
  if h : n < durationBound then ⟨n, h⟩ else max

/-- The span of so many milliseconds. -/
def ofMillis (ms : UInt64) : Duration where
  nanos := ms.toNat * 1000000
  nanos_lt := by
    have := ms.toNat_lt
    simp only [durationBound, nanosPerSecond]
    omega

/-- Whole seconds. -/
def seconds (d : Duration) : Nat := d.nanos / nanosPerSecond

/-- Nanoseconds beyond the whole seconds. -/
def subsecNanos (d : Duration) : Nat := d.nanos % nanosPerSecond

/-- The sum, or the longest span if it is too short. -/
def saturatingAdd (a b : Duration) : Duration := saturating (a.nanos + b.nanos)

/-- A number of units with up to `places` decimals, none of them a trailing zero. -/
def decimalText (whole fraction places : Nat) (unit : String) : String :=
  let ds := (Decimal.padded places fraction).toList.reverse.dropWhile (· == '0')
  let tail := if ds.isEmpty then [] else '.' :: ds.reverse
  toString whole ++ String.ofList tail ++ unit

/-- The span in the largest unit of which it holds at least one. -/
def inspect (d : Duration) : String :=
  let n := d.subsecNanos
  if d.seconds > 0 then decimalText d.seconds n 9 "s"
  else if n ≥ 1000000 then decimalText (n / 1000000) (n % 1000000) 6 "ms"
  else if n ≥ 1000 then decimalText (n / 1000) (n % 1000) 3 "µs"
  else decimalText n 0 0 "ns"

end Duration

end EventMesh.Time
