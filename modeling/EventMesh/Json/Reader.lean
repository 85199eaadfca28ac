import EventMesh.Json.Basic
import EventMesh.Text.Scanner

/-!
Reading JSON texts: one value with blanks around it and nothing else. Values nested more than 127
deep, control characters inside strings and escapes of lone surrogates are refused.
-/

namespace EventMesh.Json.Reader

open EventMesh.Text

/-- The blanks that may stand between the tokens. -/
def isBlank (c : Char) : Bool := c == ' ' || c == '\n' || c == '\r' || c == '\t'

def skipBlanks : Scanner Unit := do let _ ← Scanner.takeWhile isBlank

/-- Reads four hexadecimal digits. -/
def unit : Scanner Nat := Scanner.hex 4

/-- The rest of a `\u` escape: one code unit, or two that form a surrogate pair. -/
def unicodeEscape : Scanner Char := do
  let high ← unit
  if 0xD800 ≤ high ∧ high ≤ 0xDBFF then
    Scanner.char '\\'
    Scanner.char 'u'
    let low ← unit
    if 0xDC00 ≤ low ∧ low ≤ 0xDFFF then
      return Char.ofNat (0x10000 + (high - 0xD800) * 0x400 + (low - 0xDC00))
    else failure
  else if 0xDC00 ≤ high ∧ high ≤ 0xDFFF then failure
  else return Char.ofNat high

/-- One character of a string, escaped or not. -/
def stringChar : Scanner Char := do
  let c ← Scanner.satisfy (fun c => c ≥ ' ' && c != '"')
  if c != '\\' then return c
  match ← Scanner.satisfy (fun _ => true) with
  | '"' => return '"'
  | '\\' => return '\\'
  | '/' => return '/'
  | 'b' => return '\x08'
  | 'f' => return '\x0c'
  | 'n' => return '\n'
  | 'r' => return '\r'
  | 't' => return '\t'
  | 'u' => unicodeEscape
  | _ => failure

/-- A string. -/
def string : Scanner String := do
  Scanner.char '"'
  let cs ← Scanner.many stringChar (← get).length
  Scanner.char '"'
  return String.ofList cs

/-- A number: no zero in front of other digits, and digits on both sides of a point. -/
def number : Scanner String := do
  let sign ← Scanner.opt (Scanner.char '-')
  let whole ← Scanner.takeWhile1 Char.isDigit
  if whole.length > 1 && whole.head? == some '0' then failure
  let fraction ← Scanner.opt do
    Scanner.char '.'
    Scanner.takeWhile Char.isDigit
  if fraction == some [] then failure
  let exponent ← Scanner.opt do
    let e ← Scanner.satisfy (fun c => c == 'e' || c == 'E')
    let s ← Scanner.opt (Scanner.satisfy (fun c => c == '+' || c == '-'))
    return e :: s.toList ++ (← Scanner.takeWhile1 Char.isDigit)
  return String.ofList ((if sign.isSome then ['-'] else []) ++ whole ++
    (fraction.elim [] ('.' :: ·)) ++ exponent.getD [])

/-- Items with commas between them, up to the closing bracket, which is read too. -/
def items {α : Type} (item : Scanner α) (closing : Char) : Scanner (List α) := do
  skipBlanks
  if (← Scanner.peek) == some closing then
    Scanner.char closing
    return []
  let first ← item
  let rest ← Scanner.many (do skipBlanks; Scanner.char ','; item) (← get).length
  skipBlanks
  Scanner.char closing
  return first :: rest

/-- A value of at most the given depth, with blanks before it. -/
def value : Nat → Scanner Json
  | 0 => failure
  | depth + 1 => do
    skipBlanks
    match ← Scanner.peek with
    | some '"' => return .str (← string)
    | some '[' =>
      Scanner.char '['
      return .arr (← items (value depth) ']')
    | some '\x7b' =>
      Scanner.char '\x7b'
      let member := do
        skipBlanks
        let key ← string
        skipBlanks
        Scanner.char ':'
        return (key, ← value depth)
      return .obj (← items member '\x7d')
    | some 't' => do Scanner.word "true"; return .bool true
    | some 'f' => do Scanner.word "false"; return .bool false
    | some 'n' => do Scanner.word "null"; return .null
    | _ => return .number (← number)

end EventMesh.Json.Reader

namespace EventMesh.Json

/-- The value of a whole text. -/
def parse? (text : String) : Option Json :=
  Text.Scanner.readAll (do let v ← Reader.value 128; Reader.skipBlanks; return v) text.toList

end EventMesh.Json
