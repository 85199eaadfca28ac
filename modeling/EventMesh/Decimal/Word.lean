import EventMesh.Decimal.Digits

/-!
Reading numbers of 64 bits that are not negative. An optional plus may stand in front of the digits.
Of several faults the leftmost is reported.
-/

namespace EventMesh.Decimal

/-- Why a text is no number of 64 bits. -/
inductive WordFault where
  | empty
  | invalidDigit
  | tooLarge
  deriving DecidableEq

def WordFault.message : WordFault → String
  | .empty => "cannot parse integer from empty string"
  | .invalidDigit => "invalid digit found in string"
  | .tooLarge => "number too large to fit in target type"

/-- Reads digits from left to right and stops at the first that is none, or that makes the number
too large. -/
def readDigits (n : Nat) : List Char → Except WordFault Nat
  | [] => .ok n
  | c :: rest =>
    if !c.isDigit then .error .invalidDigit
    else
      let n := 10 * n + digitValue c
      if n < UInt64.size then readDigits n rest else .error .tooLarge

/-- Reads a number of 64 bits. -/
def readWord (cs : List Char) : Except WordFault UInt64 :=
  match cs with
  | [] => .error .empty
  | ['+'] => .error .invalidDigit
  | '+' :: rest => (readDigits 0 rest).map UInt64.ofNat
  | cs => (readDigits 0 cs).map UInt64.ofNat

end EventMesh.Decimal
