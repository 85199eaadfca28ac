import EventMesh.Dict

/-!
Configuration values as TOML has them. A table remembers how it came to be, which decides whether a
header or a dotted key may add to it: a table of a header or in braces is complete, a table that
only a longer header implied can still get a header of its own, and a table made by dotted keys
takes more dotted keys.
-/

namespace EventMesh.Toml

/-- How a table came to be. -/
inductive Standing where
  /-- Written in braces. -/
  | inline
  /-- By a header of its own. -/
  | header
  /-- By the header of a table inside it. -/
  | implied
  /-- By a dotted key. -/
  | dotted
  deriving DecidableEq

/-- A value. Numbers with a point and times are kept as they were written. -/
inductive Value where
  | string (s : String)
  | integer (i : Int)
  | float (literal : String)
  | boolean (b : Bool)
  | datetime (literal : String)
  | array (items : List Value)
  | table (standing : Standing) (entries : List (String × Value))
  /-- The tables of headers in double brackets, oldest first. -/
  | tables (elements : List (List (String × Value)))

/-- The entries of a table, one a key. -/
abbrev Entries := Dict String Value

/-! ### Adding to tables -/

/-- How to go on into what stands under a key: the entries there, and how to put changed ones back.
-/
abbrev Door := Option Value → Option (Entries × (Entries → Value))

/-- The way into the newest of several tables. -/
def intoNewest (elements : List Entries) : Option (Entries × (Entries → Value)) :=
  elements.getLast?.map fun last => (last, fun es => .tables (elements.dropLast ++ [es]))

/-- The way of a header: through any table, and through missing ones, which it implies. -/
def headerDoor : Door
  | none => some ([], .table .implied)
  | some (.table .inline _) => none
  | some (.table standing es) => some (es, .table standing)
  | some (.tables elements) => intoNewest elements
  | some _ => none

/-- The way of a dotted key before its last table: not through complete tables. -/
def dottedDoor : Door
  | none => some ([], .table .dotted)
  | some (.table .dotted es) => some (es, .table .dotted)
  | some (.table .implied es) => some (es, .table .implied)
  | some (.tables elements) => intoNewest elements
  | some _ => none

/-- The way of a dotted key into its last table, which dotted keys made. -/
def lastDottedDoor : Door
  | none => some ([], .table .dotted)
  | some (.table .dotted es) => some (es, .table .dotted)
  | some _ => none

/-- Changes the entries at the end of a path. -/
def within (door : Door) : List String → (Entries → Option Entries) → Entries → Option Entries
  | [], change, es => change es
  | key :: path, change, es => do
    let (inner, back) ← door (Dict.get? es key)
    let inner ← within door path change inner
    return Dict.insert es key (back inner)

/-- Enters a value under a new key. -/
def addNew (key : String) (v : Value) (es : Entries) : Option Entries :=
  if Dict.contains es key then none else some (Dict.insert es key v)

/-- Enters a value under a dotted key. -/
def addDotted (path : List String) (v : Value) (es : Entries) : Option Entries := do
  let key ← path.getLast?
  let tables := path.dropLast
  within dottedDoor tables.dropLast (within lastDottedDoor tables.getLast?.toList (addNew key v)) es

/-- Opens the table of a header. -/
def openTable (path : List String) (es : Entries) : Option Entries := do
  let key ← path.getLast?
  within headerDoor path.dropLast (fun es =>
    match Dict.get? es key with
    | none => some (Dict.insert es key (.table .header []))
    | some (.table .implied inner) => some (Dict.insert es key (.table .header inner))
    | some _ => none) es

/-- Opens one more table of a header in double brackets. -/
def openElement (path : List String) (es : Entries) : Option Entries := do
  let key ← path.getLast?
  within headerDoor path.dropLast (fun es =>
    match Dict.get? es key with
    | none => some (Dict.insert es key (.tables [[]]))
    | some (.tables elements) => some (Dict.insert es key (.tables (elements ++ [[]])))
    | some _ => none) es

end EventMesh.Toml
