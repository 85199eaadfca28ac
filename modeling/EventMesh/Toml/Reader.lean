import EventMesh.Toml.Literal

/-!
Reading configuration texts: lines that each hold a header, a key with its value, or nothing, with
comments at their ends. Keys are single or dotted; arrays may run over several lines, tables in
braces may not. Values nested eighty deep are refused, and so are keys of eighty parts.
-/

namespace EventMesh.Toml

open Text

/-- The limit for the nesting of values and for the parts of a key. -/
def depthLimit : Nat := 80

def isKeyChar (c : Char) : Bool := c.isAlphanum || c == '_' || c == '-'

/-- One part of a key, with blanks around it. -/
def keyPart : Scanner String := do
  skipBlanks
  let cs ← basicString <|> literalString <|> Scanner.takeWhile1 isKeyChar
  skipBlanks
  return String.ofList cs

/-- A key of one part or of several with dots between them. -/
def key : Scanner (List String) := do
  let first ← keyPart
  let rest ← Scanner.many (do Scanner.char '.'; keyPart) (← get).length
  if rest.length + 1 < depthLimit then return first :: rest else failure

/-- Blanks, line ends and comments, as they may stand inside arrays. -/
def skipLines : Scanner Unit := do
  let _ ← Scanner.many
    (newline <|> (do let _ ← Scanner.takeWhile1 isBlank) <|> comment) (← get).length

/-- Items with commas between them. -/
def separated {α : Type} (item : Scanner α) : Scanner (List α) := do
  match ← Scanner.opt item with
  | none => return []
  | some first =>
    return first :: (← Scanner.many (do Scanner.char ','; item) (← get).length)

/-- A value nested less deep than the given limit. -/
def value : Nat → Scanner Value
  | 0 => failure
  | depth + 1 => do
    match ← Scanner.peek with
    | some '[' =>
      if depth = 0 then failure
      Scanner.char '['
      let items ← separated (do
        skipLines
        let v ← value depth
        skipLines
        return v)
      if !items.isEmpty then let _ ← Scanner.opt (Scanner.char ',')
      skipLines
      Scanner.char ']'
      return .array items
    | some '\x7b' =>
      if depth = 0 then failure
      Scanner.char '\x7b'
      let members ← separated (do
        let path ← key
        Scanner.char '='
        skipBlanks
        let v ← value depth
        skipBlanks
        return (path, v))
      skipBlanks
      Scanner.char '\x7d'
      match members.foldlM (fun es (path, v) => addDotted path v es) [] with
      | some es => return .table .inline es
      | none => failure
    | _ => literal

/-- The end of a line that holds something: blanks, perhaps a comment, and the line end. -/
def lineEnd : Scanner Unit := do
  skipBlanks
  let _ ← Scanner.opt comment
  newline <|> Scanner.atEnd

/-- What a line says. -/
inductive Line where
  | blank
  | header (path : List String)
  | element (path : List String)
  | entry (path : List String) (v : Value)

/-- One line. -/
def line : Scanner Line := do
  skipBlanks
  match ← Scanner.peek with
  | none => failure
  | some '#' =>
    lineEnd
    return .blank
  | some '\n' | some '\r' =>
    newline
    return .blank
  | some '[' =>
    Scanner.char '['
    match ← Scanner.peek with
    | some '[' =>
      Scanner.char '['
      let path ← key
      Scanner.word "]]"
      lineEnd
      return .element path
    | _ =>
      let path ← key
      Scanner.char ']'
      lineEnd
      return .header path
  | some _ =>
    let path ← key
    Scanner.char '='
    skipBlanks
    let v ← value depthLimit
    lineEnd
    return .entry path v

/-- All lines, after a mark of the byte order if there is one. -/
def lines : Scanner (List Line) := do
  let _ ← Scanner.opt (Scanner.char (Char.ofNat 0xFEFF))
  let all ← Scanner.many line ((← get).length + 1)
  skipBlanks
  return all

/-- A text that is half read: the table that entries go to, and all entries so far. -/
structure Draft where
  current : List String := []
  root : Entries := []

/-- A draft with one more line. -/
def Draft.add (d : Draft) : Line → Option Draft
  | .blank => some d
  | .header path => (openTable path d.root).map fun root => { current := path, root }
  | .element path => (openElement path d.root).map fun root => { current := path, root }
  | .entry path v =>
    (within headerDoor d.current (addDotted path v) d.root).map fun root => { d with root }

/-- The entries of a whole text. -/
def parse? (text : String) : Option Entries := do
  let all ← Scanner.readAll lines text.toList
  let draft ← all.foldlM Draft.add {}
  return draft.root

end EventMesh.Toml
