import EventMesh.Decimal.Shortest

/-!
Decimal texts of floating-point numbers. A `Style` holds the decisions of one format; the digits are
always the shortest that read back.
-/

namespace EventMesh.Decimal

/-- The decisions of a decimal format. -/
structure Style where
  /-- Smallest exponent of the first digit that is written without an exponent. -/
  least : Option Int
  /-- Exponents of the first digit from here on are written with an exponent. -/
  bound : Option Int
  /-- Whether a whole number keeps a zero after the point. -/
  keepsPoint : Bool
  /-- Whether a positive exponent has a sign. -/
  signsExponent : Bool
  tie : Tie

namespace Style

/-- Plain text: always positional, and a whole number has no point. -/
def plain : Style := ⟨none, none, false, false, .away⟩

/-- Inspection text: positional from `1e-4` up to below `1e16`. -/
def inspect : Style := ⟨some (-4), some 16, true, false, .away⟩

/-- JSON numbers: positional from `1e-5` up to below `1e16`, and exponents are signed. -/
def json : Style := ⟨some (-5), some 16, true, true, .toEven⟩

/-- Whether a number whose first digit has exponent `e` is written without an exponent. -/
def isPositional (s : Style) (e : Int) : Bool :=
  s.least.all (· ≤ e) && s.bound.all (e < ·)

end Style

/-- The decimal without an exponent. -/
def Shortest.positional (d : Shortest) (keepsPoint : Bool) : List Char :=
  let ds := Nat.toDigits 10 d.digits
  let tail := if keepsPoint then ['.', '0'] else []
  if 0 ≤ d.exponent then ds ++ List.replicate d.exponent.toNat '0' ++ tail
  else
    let places := (-d.exponent).toNat
    let ds := List.replicate (places + 1 - ds.length) '0' ++ ds
    ds.take (ds.length - places) ++ '.' :: ds.drop (ds.length - places)

/-- The decimal with the point after its first digit and an exponent. -/
def Shortest.scientific (d : Shortest) (signsExponent : Bool) : List Char :=
  let e := d.pointAfterFirst
  let mantissa := match Nat.toDigits 10 d.digits with
    | first :: second :: rest => first :: '.' :: second :: rest
    | ds => ds
  let sign := if e < 0 then ['-'] else if signsExponent then ['+'] else []
  mantissa ++ 'e' :: sign ++ Nat.toDigits 10 e.natAbs

/-- The text of a number in a format. -/
def Binary64.text (x : Binary64) (s : Style) : String :=
  let sign := if x.negative then ['-'] else []
  let body :=
    if x.isInfinite then ['i', 'n', 'f']
    else if x.isZero then if s.keepsPoint then ['0', '.', '0'] else ['0']
    else
      let d := x.shortest s.tie
      if s.isPositional d.pointAfterFirst then d.positional s.keepsPoint
      else d.scientific s.signsExponent
  if x.isNaN then "NaN" else String.ofList (sign ++ body)

end EventMesh.Decimal
