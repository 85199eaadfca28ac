import EventMesh.Toml.Literal

/-!
Writing strings. Of the four forms the first that holds the text as it is wins, in the order: double
quotes, single quotes, three double quotes, three single quotes. A text that fits none of them is
escaped.
-/

namespace EventMesh.Toml

/-- The four forms of strings. -/
inductive StringForm where
  | basic
  | literal
  | basicLines
  | literalLines
  deriving DecidableEq

/-- Whether a character is a control character other than the tabulator and the line end. -/
def isControl (c : Char) : Bool := !isPlain c && c != '\n'

/-- The longest run of a character, with the length of the run so far. -/
def longestRun (c : Char) (run : Nat) : List Char → Nat
  | [] => run
  | d :: rest => if d = c then longestRun c (run + 1) rest else max run (longestRun c 0 rest)

namespace StringForm

/-- The form in which a text is written. -/
def ofText (cs : List Char) : StringForm :=
  let newline := cs.contains '\n'
  let control := cs.any isControl
  let backslash := cs.contains '\\'
  if !control && !backslash && !cs.contains '"' && !newline then .basic
  else if !control && !cs.contains '\'' && !newline then .literal
  else if !control && !backslash && longestRun '"' 0 cs ≤ 2 then .basicLines
  else if !control && longestRun '\'' 0 cs ≤ 2 then .literalLines
  else if newline then .basicLines
  else .basic

/-- The quotes around a text in this form. -/
def quotes : StringForm → List Char
  | .basic => ['"']
  | .literal => ['\'']
  | .basicLines => ['"', '"', '"']
  | .literalLines => ['\'', '\'', '\'']

end StringForm

/-- A character as a number of four hexadecimal digits. -/
def numericEscape (c : Char) : List Char :=
  let ds := (Nat.toDigits 16 c.toNat).map Char.toUpper
  ['\\', 'u'] ++ List.replicate (4 - ds.length) '0' ++ ds

/-- A text with escapes. So many double quotes in a row may stand as they are, and line ends may if
the text is written over several lines; `row` counts the quotes before. -/
def escaped (quotesInRow : Nat) (severalLines : Bool) (row : Nat) : List Char → List Char
  | [] => []
  | '"' :: rest =>
    if row < quotesInRow then '"' :: escaped quotesInRow severalLines (row + 1) rest
    else ['\\', '"'] ++ escaped quotesInRow severalLines 0 rest
  | c :: rest =>
    let written := match c with
      | '\x08' => ['\\', 'b']
      | '\t' => ['\\', 't']
      | '\n' => if severalLines then ['\n'] else ['\\', 'n']
      | '\x0c' => ['\\', 'f']
      | '\r' => ['\\', 'r']
      | '\\' => ['\\', '\\']
      | c => if isPlain c then [c] else numericEscape c
    written ++ escaped quotesInRow severalLines 0 rest

/-- A text as a string value. -/
def stringText (s : String) : String :=
  let cs := s.toList
  let form := StringForm.ofText cs
  let opening := match form with
    | .basic | .literal => form.quotes
    | .basicLines | .literalLines => form.quotes ++ if cs.contains '\n' then ['\n'] else []
  let body := match form with
    | .basic => escaped 0 false 0 cs
    | .basicLines => escaped 2 true 0 cs
    | .literal | .literalLines => cs
  String.ofList (opening ++ body ++ form.quotes)

end EventMesh.Toml
