import EventMesh.Text.Hexadecimal
import EventMesh.Text.Quoted

/-!
Names: cells are named by texts their starters choose, events by 128-bit numbers. Cells are ordered
as their names are, character by character.
-/

namespace EventMesh

/-- The name of a cell, compared exactly. -/
structure CellId where
  text : String
  deriving DecidableEq

namespace CellId

instance : LT CellId := ⟨fun a b => a.text < b.text⟩

instance : DecidableLT CellId := fun a b => inferInstanceAs (Decidable (a.text < b.text))

/-- The order of the names as texts. -/
def compare (a b : CellId) : Ordering := Ord.compare a.text b.text

def inspect (id : CellId) : String := "CellId(" ++ Text.quoted id.text ++ ")"

end CellId

/-- A universally unique number. -/
structure Uuid where
  bits : BitVec 128
  deriving DecidableEq

namespace Uuid

/-- Where a hyphen stands before a hexadecimal digit. -/
def hyphenBefore (position : Nat) : Bool :=
  position == 8 || position == 12 || position == 16 || position == 20

/-- Digits with hyphens before the positions that have one, counting from the given position. -/
def hyphenate (position : Nat) : List Char → List Char
  | [] => []
  | c :: rest =>
    (if hyphenBefore position then ['-', c] else [c]) ++ hyphenate (position + 1) rest

/-- Thirty-two lower-case hexadecimal digits. -/
def digits (u : Uuid) : List Char :=
  let ds := Nat.toDigits 16 u.bits.toNat
  List.replicate (32 - ds.length) '0' ++ ds

/-- Five groups of hexadecimal digits with hyphens between them. -/
def text (u : Uuid) : String := String.ofList (hyphenate 0 u.digits)

/-- Reads thirty-two hexadecimal digits without hyphens. -/
def ofDigits? (cs : List Char) : Option Uuid := do
  let n ← Text.readHex? cs
  if cs.length = 32 then some ⟨BitVec.ofNat 128 n⟩ else none

/-- Takes the hyphens out of five groups, each hyphen at its place. -/
def ofGroups? (cs : List Char) : Option Uuid :=
  let ds := cs.filter (· ≠ '-')
  if hyphenate 0 ds = cs then ofDigits? ds else none

/-- Reads digits without hyphens, five groups, five groups in braces, or five groups after
`urn:uuid:`; letters may be of either case. -/
def ofText? (s : String) : Option Uuid :=
  let cs := s.toList
  if cs.length = 32 then ofDigits? cs
  else if cs.length = 36 then ofGroups? cs
  else if cs.length = 38 ∧ cs.head? = some '\x7b' ∧ cs.getLast? = some '\x7d' then
    ofGroups? (cs.drop 1).dropLast
  else if cs.length = 45 ∧ (cs.take 9).map Char.toLower = "urn:uuid:".toList then
    ofGroups? (cs.drop 9)
  else none

end Uuid

/-- The name of an event; it tells events apart and decides nothing. -/
structure EventId where
  uuid : Uuid
  deriving DecidableEq

namespace EventId

/-- The name of the event with the given number in order of creation. -/
def ofSerial (n : Nat) : EventId := ⟨⟨BitVec.ofNat 128 n⟩⟩

def text (id : EventId) : String := "evt:" ++ id.uuid.text

end EventId

end EventMesh
