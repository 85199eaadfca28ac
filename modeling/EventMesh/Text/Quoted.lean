import EventMesh.Text.Extending
import EventMesh.Text.Ignorable
import EventMesh.Text.Unprintable

/-!
Quoted text: a text between double quotes in which every character that would not show, would merge
with its neighbour or would end the quote is spelled by an escape.
-/

namespace EventMesh.Text

/-- The lower-case hexadecimal digits of a number. -/
def hexDigits (n : Nat) : List Char := Nat.toDigits 16 n

/-- A character as it stands inside quoted text. -/
def escape (c : Char) : List Char :=
  if c = '\x00' then ['\\', '0']
  else if c = '\t' then ['\\', 't']
  else if c = '\r' then ['\\', 'r']
  else if c = '\n' then ['\\', 'n']
  else if c = '\\' then ['\\', '\\']
  else if c = '"' then ['\\', '"']
  else if ' ' ≤ c ∧ c ≤ '~' then [c]
  else if isExtending c || isIgnorable c || isUnprintable c then
    ['\\', 'u', '\x7b'] ++ hexDigits c.toNat ++ ['\x7d']
  else [c]

/-- The text between the quotes. -/
def escaped (s : String) : List Char := s.toList.flatMap escape

/-- The text in double quotes. -/
def quoted (s : String) : String := String.ofList ('"' :: escaped s ++ ['"'])

end EventMesh.Text
