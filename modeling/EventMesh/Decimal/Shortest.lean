import EventMesh.Decimal.Binary64

/-!
The shortest decimal of a finite binary number: of all decimals that read back as the number, one
with the fewest digits, and of those the nearest. For 1, 2, … 17 digits the two neighbours of the
number on that decimal grid are tested in exact arithmetic; the first grid with a hit wins.
-/

namespace EventMesh.Decimal

/-- `digits · 10^exponent`. -/
structure Shortest where
  digits : Nat
  exponent : Int
  deriving DecidableEq

/-- Where to go when a number lies halfway between two decimals of the grid. -/
inductive Tie where
  | toEven
  | away
  deriving DecidableEq

/-- The numbers that read back as a given one, all over one denominator: `value` itself and the ends
`low` and `high` of their interval, which belong to it iff `closed`. -/
structure Reach where
  low : Nat
  value : Nat
  high : Nat
  denominator : Nat
  closed : Bool

/-- The interval that rounds to `x`; below a power of two it is half as wide as above. -/
def Binary64.reach (x : Binary64) : Reach :=
  let m := x.significand
  let below := if x.fractionBits = 0 ∧ x.exponentBits > 1 then 1 else 2
  let q := x.scale - 2
  let unit := 1 <<< q.toNat
  { low := (4 * m - below) * unit
    value := 4 * m * unit
    high := (4 * m + 2) * unit
    denominator := 1 <<< (-q).toNat
    closed := m % 2 = 0 }

namespace Reach

/-- The interval in units of `10^e`. -/
def inUnitsOf (r : Reach) (e : Int) : Reach :=
  let up := Nat.pow 10 (-e).toNat
  { r with
    low := r.low * up
    value := r.value * up
    high := r.high * up
    denominator := r.denominator * Nat.pow 10 e.toNat }

/-- Whether the integer `n` reads back as the number. -/
def holds (r : Reach) (n : Nat) : Bool :=
  let p := n * r.denominator
  if r.closed then r.low ≤ p && p ≤ r.high else r.low < p && p < r.high

/-- The integer next to the number that reads back as it, the nearer one if both do. -/
def nearest? (r : Reach) (tie : Tie) : Option Nat :=
  let n := r.value / r.denominator
  let past := r.value - n * r.denominator
  let short := r.denominator - past
  match r.holds n, r.holds (n + 1) with
  | false, false => none
  | true, false => some n
  | false, true => some (n + 1)
  | true, true =>
    if past < short then some n
    else if short < past then some (n + 1)
    else match tie with
      | .away => some (n + 1)
      | .toEven => some (if n % 2 = 0 then n else n + 1)

/-- How many digits stand before the point; below one tenth, minus the zeros after the point. -/
def magnitude (r : Reach) : Int :=
  let whole := r.value / r.denominator
  if whole ≠ 0 then ((Nat.toDigits 10 whole).length : Int)
  else -(zerosAfterPoint 400 r.value : Int)
where
  zerosAfterPoint : Nat → Nat → Nat
    | 0, _ => 0
    | fuel + 1, v => if v * 10 ≥ r.denominator then 0 else zerosAfterPoint fuel (v * 10) + 1

/-- Tries `count` digits, then more, at most `fuel` times. -/
def search (r : Reach) (tie : Tie) (magnitude : Int) : Nat → Nat → Option Shortest
  | 0, _ => none
  | fuel + 1, count =>
    let e := magnitude - count
    match (r.inUnitsOf e).nearest? tie with
    | some n => some ⟨n, e⟩
    | none => search r tie magnitude fuel (count + 1)

end Reach

namespace Shortest

/-- The same decimal without the zeros at the end of its digits. -/
def strip : Nat → Shortest → Shortest
  | 0, d => d
  | fuel + 1, d =>
    if d.digits ≠ 0 ∧ d.digits % 10 = 0 then strip fuel ⟨d.digits / 10, d.exponent + 1⟩ else d

/-- The exponent when the point stands after the first digit. -/
def pointAfterFirst (d : Shortest) : Int :=
  ((Nat.toDigits 10 d.digits).length : Int) + d.exponent - 1

end Shortest

/-- The shortest decimal of the magnitude of a finite number that is not zero. -/
def Binary64.shortest (x : Binary64) (tie : Tie) : Shortest :=
  let r := x.reach
  (((r.search tie r.magnitude 17 1).getD ⟨0, 0⟩).strip 20)

end EventMesh.Decimal
