/-!
Binary floating-point numbers of 64 bits, as bit patterns. A finite number is `significand ·
2^scale` with its sign. Main statement: a number equals itself iff it is not a NaN (`same_self`).
-/

namespace EventMesh.Decimal

/-- A 64-bit floating-point number by its bit pattern. -/
structure Binary64 where
  bits : UInt64
  deriving DecidableEq

namespace Binary64

/-- Whether the sign bit is set. -/
def negative (x : Binary64) : Bool := x.bits.toNat ≥ 0x8000000000000000

/-- The eleven exponent bits. -/
def exponentBits (x : Binary64) : Nat := x.bits.toNat / 0x10000000000000 % 0x800

/-- The fifty-two fraction bits. -/
def fractionBits (x : Binary64) : Nat := x.bits.toNat % 0x10000000000000

def isNaN (x : Binary64) : Bool := x.exponentBits == 2047 && x.fractionBits != 0

def isInfinite (x : Binary64) : Bool := x.exponentBits == 2047 && x.fractionBits == 0

def isFinite (x : Binary64) : Bool := x.exponentBits != 2047

/-- Positive or negative zero. -/
def isZero (x : Binary64) : Bool := x.exponentBits == 0 && x.fractionBits == 0

/-- The integer `m` of a finite number `m · 2^q`. -/
def significand (x : Binary64) : Nat :=
  if x.exponentBits = 0 then x.fractionBits else 0x10000000000000 + x.fractionBits

/-- The exponent `q` of a finite number `m · 2^q`. -/
def scale (x : Binary64) : Int :=
  if x.exponentBits = 0 then -1074 else (x.exponentBits : Int) - 1075

/-- Arithmetic equality: a NaN equals nothing, and the two zeros are equal. -/
def same (x y : Binary64) : Bool :=
  !x.isNaN && !y.isNaN && (x == y || (x.isZero && y.isZero))

theorem same_self (x : Binary64) : x.same x = !x.isNaN := by
  cases h : x.isNaN <;> simp [same, h]

end Binary64

end EventMesh.Decimal
