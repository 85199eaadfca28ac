/-!
Unsigned numbers in decimal digits. Reading accepts exactly the non-empty texts of ASCII digits.
-/

namespace EventMesh.Decimal

/-- The value of an ASCII decimal digit. -/
def digitValue (c : Char) : Nat := c.toNat - '0'.toNat

/-- The number a text of digits denotes, with the digits read so far as the start value. -/
def valueOf (start : Nat) (cs : List Char) : Nat :=
  cs.foldl (fun n c => 10 * n + digitValue c) start

/-- Reads a non-empty text of ASCII decimal digits; leading zeros are allowed. -/
def readNat? (cs : List Char) : Option Nat :=
  if cs ≠ [] ∧ cs.all Char.isDigit then some (valueOf 0 cs) else none

/-- The decimal digits of `n`, with zeros in front up to the width. -/
def padded (width n : Nat) : String :=
  let ds := Nat.toDigits 10 n
  String.ofList (List.replicate (width - ds.length) '0' ++ ds)

end EventMesh.Decimal
