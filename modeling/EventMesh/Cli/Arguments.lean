import EventMesh.Decimal.Word

/-!
Command-line arguments. Flags and the project option may stand before the command and after it, once
at each place, and the place after the command wins. An option takes its value from the same word or
from the next one, which then must not look like an option. Everything else is rejected.
-/

namespace EventMesh.Cli

/-- Options that every command has. -/
structure Globals where
  debug : Bool := false
  verbose : Bool := false
  project : Option String := none
  deriving DecidableEq

/-- What is to be done. -/
inductive Command where
  | counter (batches : List String)
  /-- Without a window the configured one counts. -/
  | pair (gapMs : UInt64) (windowMs : Option UInt64)
  deriving DecidableEq

/-- What a command line asks for. -/
inductive Request where
  | run (globals : Globals) (command : Command)
  | version
  | help
  | rejected
  deriving DecidableEq

/-! ### Words -/

/-- Flags and options by what they are for. -/
inductive Switch where
  | debug
  | verbose
  | project
  | batch
  | gap
  | window
  | help
  | version
  deriving DecidableEq

/-- Where an option stands: before the command, or after one. -/
inductive Place where
  | before
  | afterCounter
  | afterPair
  deriving DecidableEq

/-- Whether an option takes a value. -/
def Switch.takesValue : Switch → Bool
  | .project | .batch | .gap | .window => true
  | .debug | .verbose | .help | .version => false

/-- Whether an option may stand at a place. -/
def Switch.allowedAt : Switch → Place → Bool
  | .debug, _ | .verbose, _ | .project, _ | .help, _ => true
  | .version, place => place == .before
  | .batch, place => place == .afterCounter
  | .gap, place | .window, place => place == .afterPair

/-- The option of a long name. -/
def ofLongName? : List Char → Option Switch
  | ['d', 'e', 'b', 'u', 'g'] => some .debug
  | ['v', 'e', 'r', 'b', 'o', 's', 'e'] => some .verbose
  | ['p', 'r', 'o', 'j', 'e', 'c', 't'] => some .project
  | ['b', 'a', 't', 'c', 'h'] => some .batch
  | ['g', 'a', 'p', '-', 'm', 's'] => some .gap
  | ['w', 'i', 'n', 'd', 'o', 'w', '-', 'm', 's'] => some .window
  | ['h', 'e', 'l', 'p'] => some .help
  | ['v', 'e', 'r', 's', 'i', 'o', 'n'] => some .version
  | _ => none

/-- The option of a letter. -/
def ofLetter? : Char → Option Switch
  | 'd' => some .debug
  | 'v' => some .verbose
  | 'C' => some .project
  | 'h' => some .help
  | 'V' => some .version
  | _ => none

/-- What a word is. -/
inductive Word where
  /-- Two hyphens: no options after this. -/
  | endOfOptions
  /-- An option by its long name, perhaps with a value. -/
  | long (name : List Char) (value : Option (List Char))
  /-- Options by their letters, the last perhaps with a value. -/
  | letters (cs : List Char)
  | plain (cs : List Char)

/-- The value after an equals sign, and what stands before it. -/
def cutAtEquals (cs : List Char) : List Char × Option (List Char) :=
  match cs.dropWhile (· ≠ '=') with
  | [] => (cs, none)
  | _ :: value => (cs.takeWhile (· ≠ '='), some value)

/-- Tells words apart by the hyphens they start with; a single hyphen is a plain word. -/
def Word.of (word : String) : Word :=
  match word.toList with
  | ['-', '-'] => .endOfOptions
  | '-' :: '-' :: cs =>
    let (name, value) := cutAtEquals cs
    .long name value
  | '-' :: c :: cs => .letters (c :: cs)
  | cs => .plain cs

/-! ### Collecting -/

/-- What was collected at one place. -/
structure Collected where
  flags : List Switch := []
  project : Option String := none
  batches : List String := []
  gapMs : Option UInt64 := none
  windowMs : Option UInt64 := none

/-- Why collecting ends early. -/
inductive Stop where
  | reject
  | version
  | help

namespace Collected

/-- With one more flag, which must not be there yet. -/
def addFlag (c : Collected) (flag : Switch) : Except Stop Collected :=
  match flag with
  | .help => .error .help
  | .version => .error .version
  | flag => if flag ∈ c.flags then .error .reject else .ok { c with flags := flag :: c.flags }

/-- With the number of an option, which must not be there yet. -/
def addNumber (current : Option UInt64) (value : List Char)
    (put : UInt64 → Collected) : Except Stop Collected :=
  match current, Decimal.readWord value with
  | none, .ok n => .ok (put n)
  | _, _ => .error .reject

/-- With the value of an option; only batches may be given again, and a project is never empty. -/
def addValue (c : Collected) (option : Switch) (value : List Char) : Except Stop Collected :=
  match option with
  | .project =>
    if c.project.isNone ∧ value ≠ [] then .ok { c with project := some (String.ofList value) }
    else .error .reject
  | .batch => .ok { c with batches := c.batches ++ [String.ofList value] }
  | .gap => addNumber c.gapMs value fun n => { c with gapMs := some n }
  | .window => addNumber c.windowMs value fun n => { c with windowMs := some n }
  | .debug | .verbose | .help | .version => .error .reject

end Collected

/-- Takes the value of an option from the next word. -/
def fromNext (c : Collected) (option : Switch) (rest : List String) :
    Except Stop (Collected × List String) :=
  match rest with
  | [] => .error .reject
  | word :: rest =>
    match Word.of word with
    | .plain value => (c.addValue option value).map fun c => (c, rest)
    | .endOfOptions | .long _ _ | .letters _ => .error .reject

/-- Takes options by their letters. The rest of the word is the value of the first that takes one,
with or without an equals sign before it. -/
def takeLetters (place : Place) (rest : List String) :
    List Char → Collected → Except Stop (Collected × List String)
  | [], c => .ok (c, rest)
  | letter :: letters, c =>
    match (ofLetter? letter).filter (·.allowedAt place) with
    | none => .error .reject
    | some option =>
      if option.takesValue then
        match letters with
        | [] => fromNext c option rest
        | '=' :: value => (c.addValue option value).map fun c => (c, rest)
        | value => (c.addValue option value).map fun c => (c, rest)
      else
        match c.addFlag option with
        | .error stop => .error stop
        | .ok c => takeLetters place rest letters c

/-- Takes an option by its long name. -/
def takeLong (place : Place) (rest : List String) (name : List Char) (value : Option (List Char))
    (c : Collected) : Except Stop (Collected × List String) :=
  match (ofLongName? name).filter (·.allowedAt place), value with
  | none, _ => .error .reject
  | some option, none =>
    if option.takesValue then fromNext c option rest
    else (c.addFlag option).map fun c => (c, rest)
  | some option, some value =>
    if option.takesValue then (c.addValue option value).map fun c => (c, rest)
    else .error .reject

/-- Takes options up to the first plain word, with the words from there on; after two hyphens
nothing may come. The number of words bounds the steps. -/
def collect (place : Place) : Nat → List String → Collected → Except Stop (Collected × List String)
  | 0, words, c => .ok (c, words)
  | _, [], c => .ok (c, [])
  | steps + 1, word :: rest, c =>
    match Word.of word with
    | .endOfOptions => if rest.isEmpty then .ok (c, []) else .error .reject
    | .plain _ => .ok (c, word :: rest)
    | .long name value => do
      let (c, rest) ← takeLong place rest name value c
      collect place steps rest c
    | .letters letters => do
      let (c, rest) ← takeLetters place rest letters c
      collect place steps rest c

/-- All options at a place. -/
def collectAll (place : Place) (words : List String) : Except Stop (Collected × List String) :=
  collect place words.length words {}

/-- The options of both places together. -/
def mergeGlobals (before after : Collected) : Globals where
  debug := Switch.debug ∈ before.flags ++ after.flags
  verbose := Switch.verbose ∈ before.flags ++ after.flags
  project := after.project.or before.project

/-- What a list of words asks for. -/
def parse (words : List String) : Except Stop Request := do
  let (before, rest) ← collectAll .before words
  match rest with
  | "counter" :: words => do
    let (after, rest) ← collectAll .afterCounter words
    if rest.isEmpty ∧ after.batches ≠ [] then
      return .run (mergeGlobals before after) (.counter after.batches)
    else .error .reject
  | "pair" :: words => do
    let (after, rest) ← collectAll .afterPair words
    if rest.isEmpty then
      return .run (mergeGlobals before after) (.pair (after.gapMs.getD 0) after.windowMs)
    else .error .reject
  | ["help"] | ["help", "counter"] | ["help", "pair"] | ["help", "help"] => return .help
  | _ => .error .reject

/-- What a command line asks for. -/
def Request.of (words : List String) : Request :=
  match parse words with
  | .ok request => request
  | .error .version => .version
  | .error .help => .help
  | .error .reject => .rejected

end EventMesh.Cli
