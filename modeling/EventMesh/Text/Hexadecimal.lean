/-!
Hexadecimal digits in either case.
-/

namespace EventMesh.Text

/-- The value of a hexadecimal digit. -/
def hexValue? (c : Char) : Option Nat :=
  if '0' ≤ c ∧ c ≤ '9' then some (c.toNat - '0'.toNat)
  else if 'a' ≤ c ∧ c ≤ 'f' then some (c.toNat - 'a'.toNat + 10)
  else if 'A' ≤ c ∧ c ≤ 'F' then some (c.toNat - 'A'.toNat + 10)
  else none

/-- The number that hexadecimal digits denote, if all of them are digits. -/
def readHex? (cs : List Char) : Option Nat := do
  let values ← cs.mapM hexValue?
  return values.foldl (fun n v => 16 * n + v) 0

end EventMesh.Text
