import EventMesh.Decimal.Digits
import EventMesh.Text.Scanner
import EventMesh.Text.Split
import EventMesh.Toml.Basic

/-!
Reading the values that have no parts: strings in their four forms, whole numbers in four bases,
numbers with a point or exponent, times and truth values. A whole number has to fit 64 bits with a
sign, and a number with a point must not be so large that it would be infinite.
-/

namespace EventMesh.Toml

open Text

/-! ### Blanks and lines -/

def isBlank (c : Char) : Bool := c == ' ' || c == '\t'

def skipBlanks : Scanner Unit := do let _ ← Scanner.takeWhile isBlank

/-- The end of a line, with or without a carriage return. -/
def newline : Scanner Unit := Scanner.word "\n" <|> Scanner.word "\r\n"

/-- Whether a character may stand in a comment or string as it is: no control character but the
tabulator. -/
def isPlain (c : Char) : Bool := c == '\t' || (c ≥ ' ' && c != '\x7f')

/-- A comment, up to the end of its line. -/
def comment : Scanner Unit := do
  Scanner.char '#'
  let _ ← Scanner.takeWhile isPlain

/-! ### Strings -/

/-- Whether a character may stand in a string in double quotes as it is. -/
def isBasicChar (c : Char) : Bool := isPlain c && c != '"' && c != '\\'

/-- Whether a character may stand in a string in single quotes. -/
def isLiteralChar (c : Char) : Bool := isPlain c && c != '\''

/-- The character with the given number. -/
def scalar (n : Nat) : Scanner Char := if n.isValidChar then return Char.ofNat n else failure

/-- A character written with a backslash. -/
def escape : Scanner Char := do
  Scanner.char '\\'
  match ← Scanner.satisfy fun _ => true with
  | 'b' => return '\x08'
  | 't' => return '\t'
  | 'n' => return '\n'
  | 'f' => return '\x0c'
  | 'r' => return '\r'
  | '"' => return '"'
  | '\\' => return '\\'
  | 'u' => scalar (← Scanner.hex 4)
  | 'U' => scalar (← Scanner.hex 8)
  | _ => failure

/-- Reads pieces as long as there are any. -/
def pieces (piece : Scanner (List Char)) : Scanner (List Char) := do
  return (← Scanner.many piece (← get).length).flatten

/-- A string in double quotes, on one line. -/
def basicString : Scanner (List Char) := do
  Scanner.char '"'
  let cs ← pieces (Scanner.takeWhile1 isBasicChar <|> (([·]) <$> escape))
  Scanner.char '"'
  return cs

/-- A string in single quotes, on one line. -/
def literalString : Scanner (List Char) := do
  Scanner.char '\''
  let cs ← Scanner.takeWhile isLiteralChar
  Scanner.char '\''
  return cs

/-- One or two quotes inside a string that three quotes end. -/
def innerQuotes (quote : Char) : Scanner (List Char) := do
  let qs ← Scanner.takeWhile1 (· == quote)
  if qs.length ≤ 2 then return qs else failure

/-- Three quotes that end a string, after up to two that still belong to it. -/
def closingQuotes (quote : Char) : Scanner (List Char) := do
  let qs ← Scanner.takeWhile (· == quote)
  if 3 ≤ qs.length ∧ qs.length ≤ 5 then return qs.drop 3 else failure

/-- A line end inside a string. -/
def innerNewline : Scanner (List Char) := do
  newline
  return ['\n']

/-- A backslash at the end of a line, which swallows all blanks and line ends that follow. -/
def joinedLines : Scanner (List Char) := do
  Scanner.char '\\'
  skipBlanks
  newline
  let _ ← Scanner.many (newline <|> (do let _ ← Scanner.takeWhile1 isBlank)) (← get).length
  return []

/-- The content of a string over several lines; a line end right after the opening quotes is
dropped. -/
def manyLines (quote : Char) (piece : Scanner (List Char)) : Scanner (List Char) := do
  Scanner.word (String.ofList [quote, quote, quote])
  let _ ← Scanner.opt newline
  let cs ← pieces (innerQuotes quote <|> piece <|> innerNewline)
  return cs ++ (← closingQuotes quote)

def basicLines : Scanner (List Char) :=
  manyLines '"' (Scanner.takeWhile1 isBasicChar <|> joinedLines <|> (([·]) <$> escape))

def literalLines : Scanner (List Char) := manyLines '\'' (Scanner.takeWhile1 isLiteralChar)

/-- A string in any of the four forms. -/
def stringValue : Scanner Value := do
  return .string (String.ofList
    (← basicLines <|> basicString <|> literalLines <|> literalString))

/-! ### Numbers -/

/-- Digits with single underscores between them, which are left out. -/
def digits (isDigit : Char → Bool) : Scanner (List Char) := do
  let cs ← Scanner.takeWhile1 fun c => isDigit c || c == '_'
  let groups := split '_' cs
  if groups.any List.isEmpty then failure else return groups.flatten

/-- Digits without a zero in front of others. -/
def wholeDigits : Scanner (List Char) := do
  let cs ← digits Char.isDigit
  if cs.length > 1 && cs.head? == some '0' then failure
  return cs

/-- The largest whole number. -/
def maxInteger : Nat := 0x7FFFFFFFFFFFFFFF

/-- A whole number in another base than ten, with the letter that stands for the base. -/
def basedInteger (letter : Char) (base : Nat) : Scanner Value := do
  Scanner.char '0'
  Scanner.char letter
  let cs ← digits fun c => (hexValue? c).any (· < base)
  let n := cs.foldl (fun n c => base * n + (hexValue? c).getD 0) 0
  if n ≤ maxInteger then return .integer n else failure

/-- Whether a number of so many units of a power of ten would be rounded to infinity. -/
def overflows (units : Nat) (exponent : Int) : Bool :=
  let length : Int := (Nat.toDigits 10 units).length
  if units = 0 ∨ length + exponent < 300 then false
  else if length + exponent > 400 then true
  else
    let limit := (1 <<< 1024) - (1 <<< 970)
    if exponent ≥ 0 then units * Nat.pow 10 exponent.toNat ≥ limit
    else units ≥ limit * Nat.pow 10 (-exponent).toNat

/-- The part after a point. -/
def fraction : Scanner (List Char) := do
  Scanner.char '.'
  digits Char.isDigit

/-- The power of ten after an `e`. -/
def exponent : Scanner Int := do
  let _ ← Scanner.satisfy fun c => c == 'e' || c == 'E'
  let sign ← Scanner.opt (Scanner.satisfy fun c => c == '+' || c == '-')
  let n := Decimal.valueOf 0 (← digits Char.isDigit)
  return if sign == some '-' then -(n : Int) else n

/-- A number in base ten, or one that is infinite or none at all. -/
def number : Scanner Value := do
  let sign ← Scanner.opt (Scanner.satisfy fun c => c == '+' || c == '-')
  let negative := sign == some '-'
  match ← Scanner.peek with
  | some 'i' =>
    Scanner.word "inf"
    return .float "inf"
  | some 'n' =>
    Scanner.word "nan"
    return .float "nan"
  | _ =>
    let whole ← wholeDigits
    let places ← Scanner.opt fraction
    let power ← Scanner.opt exponent
    let units := Decimal.valueOf 0 (whole ++ places.getD [])
    if places.isNone && power.isNone then
      if units ≤ maxInteger ∨ (negative ∧ units = maxInteger + 1) then
        return .integer (if negative then -(units : Int) else units)
      else failure
    else
      if !negative && overflows units (power.getD 0 - (places.getD []).length) then failure
      return .float (String.ofList whole)

/-! ### Times -/

/-- So many decimal digits. -/
def fixedDigits (n : Nat) : Scanner Nat := do
  match Decimal.readNat? (← Scanner.take n) with
  | some value => return value
  | none => failure

/-- So many decimal digits whose number is not over a limit. -/
def fixedUpTo (n limit : Nat) : Scanner Nat := do
  let value ← fixedDigits n
  if value ≤ limit then return value else failure

/-- How many days a month has. -/
def daysInMonth (year month : Nat) : Nat :=
  if month = 2 then
    if year % 4 = 0 ∧ (year % 100 ≠ 0 ∨ year % 400 = 0) then 29 else 28
  else if month ∈ [4, 6, 9, 11] then 30 else 31

def date : Scanner Unit := do
  let year ← fixedDigits 4
  Scanner.char '-'
  let month ← fixedUpTo 2 12
  Scanner.char '-'
  let day ← fixedUpTo 2 (daysInMonth year month)
  if month = 0 ∨ day = 0 then failure

def timeOfDay : Scanner Unit := do
  let _ ← fixedUpTo 2 23
  Scanner.char ':'
  let _ ← fixedUpTo 2 59
  Scanner.char ':'
  let _ ← fixedUpTo 2 60
  let _ ← Scanner.opt do
    Scanner.char '.'
    Scanner.takeWhile1 Char.isDigit

def offset : Scanner Unit := do
  match ← Scanner.satisfy fun c => c == 'Z' || c == 'z' || c == '+' || c == '-' with
  | 'Z' | 'z' => return
  | _ =>
    let _ ← fixedUpTo 2 23
    Scanner.char ':'
    let _ ← fixedUpTo 2 59

/-- A date, a time of day, or both, with or without an offset. -/
def datetime : Scanner Value := do
  let start ← get
  (do
    date
    let _ ← Scanner.opt do
      let _ ← Scanner.satisfy fun c => c == 'T' || c == 't' || c == ' '
      timeOfDay
      Scanner.opt offset) <|> timeOfDay
  return .datetime (String.ofList (start.take (start.length - (← get).length)))

/-! ### All of them -/

/-- A value that has no parts. -/
def literal : Scanner Value :=
  stringValue <|> datetime <|> basedInteger 'x' 16 <|> basedInteger 'o' 8 <|>
    basedInteger 'b' 2 <|> number <|>
    (do Scanner.word "true"; return .boolean true) <|>
    (do Scanner.word "false"; return .boolean false)

end EventMesh.Toml
