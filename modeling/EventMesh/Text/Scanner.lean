import EventMesh.Text.Hexadecimal

/-!
Scanners: readers of a prefix of a text, which fail or give a value and the text left over. A failed
scanner leaves the text alone, so that the next alternative starts where it did.
-/

namespace EventMesh.Text

/-- A reader of a prefix of a text. -/
abbrev Scanner (α : Type) := StateT (List Char) Option α

namespace Scanner

/-- The next character, which stays in the text. -/
def peek : Scanner (Option Char) := do return (← get).head?

/-- Reads one character that has the property. -/
def satisfy (p : Char → Bool) : Scanner Char := do
  match ← get with
  | c :: rest =>
    if p c then
      set rest
      return c
    else failure
  | [] => failure

/-- Reads the given character. -/
def char (c : Char) : Scanner Unit := do let _ ← satisfy (· == c)

/-- Reads the given word. -/
def word (w : String) : Scanner Unit := w.toList.forM char

/-- Reads so many characters, whatever they are. -/
def take (n : Nat) : Scanner (List Char) := do
  let cs ← get
  if cs.length < n then failure
  set (cs.drop n)
  return cs.take n

/-- Reads so many hexadecimal digits. -/
def hex (n : Nat) : Scanner Nat := do
  match readHex? (← take n) with
  | some value => return value
  | none => failure

/-- Reads the longest run of characters that have the property. -/
def takeWhile (p : Char → Bool) : Scanner (List Char) := do
  let cs ← get
  set (cs.dropWhile p)
  return cs.takeWhile p

/-- Reads the longest run of characters that have the property, at least one. -/
def takeWhile1 (p : Char → Bool) : Scanner (List Char) := do
  let cs ← takeWhile p
  if cs.isEmpty then failure else return cs

/-- Reads by the scanner if it succeeds, and nothing otherwise. -/
def opt {α : Type} (s : Scanner α) : Scanner (Option α) := (some <$> s) <|> pure none

/-- Reads as often as the scanner succeeds, at most `fuel` times. -/
def many {α : Type} (s : Scanner α) : Nat → Scanner (List α)
  | 0 => return []
  | fuel + 1 => do
    match ← opt s with
    | some a => return a :: (← many s fuel)
    | none => return []

/-- Succeeds at the end of the text only. -/
def atEnd : Scanner Unit := do
  match ← get with
  | [] => return ()
  | _ => failure

/-- Reads a whole text. -/
def readAll {α : Type} (s : Scanner α) (text : List Char) : Option α :=
  match (do let a ← s; atEnd; return a).run text with
  | some (a, _) => some a
  | none => none

end Scanner

end EventMesh.Text
