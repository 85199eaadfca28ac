import EventMesh.Behavior.Resident
import EventMesh.Cli.Arguments
import EventMesh.Config.Loader
import EventMesh.Json.Printer
import EventMesh.Mesh.Turn

/-!
Sessions: what the commands do, from the configuration to the answer. A counter session counts the
items of all batches; a pair session sends two ticks to a pair cell, with a gap between them, and
waits for what the cell reports on their scene.
-/

namespace EventMesh

/-- A mesh of ready-made behaviors only. -/
instance : CustomBehavior Empty where
  init g := nomatch g
  process g := nomatch g
  recover g := nomatch g
  terminate g := nomatch g

namespace Cli

abbrev Stock := World (Resident Empty)

/-- An error with the errors that caused it, the nearest first. -/
structure Failure where
  message : String
  causes : List String := []

namespace Failure

def ofMesh (e : MeshError) : Failure := ⟨e.message, e.causes⟩

def ofEvent (e : EventError) : Failure := ⟨e.message, []⟩

def ofConfig (e : ConfigError) : Failure := ⟨"config error", e.message :: e.causes⟩

/-- A text whose further lines start with as many blanks as given. -/
def indentLines (blanks : Nat) (text : String) : String :=
  String.ofList (text.toList.flatMap fun c =>
    if c = '\n' then '\n' :: List.replicate blanks ' ' else [c])

/-- The causes, numbered if there are several. -/
def causeLines : List String → List String
  | [cause] => ["    " ++ indentLines 4 cause ++ "\n"]
  | causes => causes.mapIdx fun i cause =>
    let number := toString i
    String.ofList (List.replicate (5 - number.length) ' ') ++ number ++ ": " ++
      indentLines 7 cause ++ "\n"

/-- The report of a failure. -/
def text (f : Failure) : String :=
  "Error: " ++ f.message ++ "\n" ++
    if f.causes.isEmpty then "" else "\nCaused by:\n" ++ String.join (causeLines f.causes)

end Failure

/-! ### Counting -/

/-- The items of a batch: the pieces between commas, without blanks around them and without empty
ones. -/
def items (batch : String) : List String :=
  (((Text.split ',' batch.toList).map Text.trim).filter (· ≠ [])).map String.ofList

/-- More stops of the clock than a session makes. -/
def stopLimit : Nat := 64

/-- Sends an event with one value to a cell. -/
def send (w : Stock) (mesh : MeshId) (target : CellId) (topic : String) (v : Value)
    (scene : Option SceneId) : Except Failure Stock :=
  let (e, w) := w.make (Event.make topic (.single v) scene w.clock.wall)
  match w.deliver mesh target e with
  | (.error err, _) => .error (.ofMesh err)
  | (.ok (), w) => .ok w

/-- Starts a cell. -/
def startCell (w : Stock) (mesh : MeshId) (id : CellId) (resident : Resident Empty) :
    Except Failure Stock :=
  match w.start mesh id resident with
  | (.error err, _) => .error (.ofMesh err)
  | (.ok (), w) => .ok w

/-- Counts the items of all batches, under their names. -/
def count (w : Stock) (config : Config) (batches : List String) :
    Except Failure (Json × Stock) := do
  let counter : CellId := ⟨"counter"⟩
  let (mesh, w) := w.openMesh config.id config.requestTimeout
  let w ← startCell w mesh counter (.counter { keysOf := .defaultStrings })
  let w ← batches.foldlM
    (fun w batch => send w mesh counter "count" (.strings (items batch)) none) w
  let (t, w) := w.spawn (.tally mesh counter .background config.requestTimeout)
  let w := w.await [t] stopLimit
  match w.report? t with
  | some (.counts (.ok counts)) =>
    return (.obj (Dict.mapValues (fun n => Json.ofInt n.toInt) counts), w)
  | some (.counts (.error err)) => throw (.ofMesh err)
  | _ => throw (.ofEvent .cancelled)

/-! ### Pairs -/

/-- Ticks match, with their value. -/
def tickTopic : String := "tick"

/-- What a pair session found on the scene. -/
def pairAnswer (w : Stock) (topic : String) (p : Payload) : Json :=
  .obj [("payload", (View.payload (p.view w.waiters.isSet)).toJson), ("topic", .str topic)]

/-- Sends two ticks with a gap between them and tells what became of them. -/
def pair (w : Stock) (config : Config) (window : Time.Duration) (gapMs : Nat) :
    Except Failure (Json × Stock) := do
  let pair : CellId := ⟨"pair"⟩
  let observer : CellId := ⟨"observer"⟩
  let (mesh, w) := w.openMesh config.id config.requestTimeout
  let w ← startCell w mesh pair (.pair { criterion := .onTopic tickTopic, window })
  let w ← startCell w mesh observer (.sceneKeeper {})
  let (_, w) := w.subscribe mesh pair [observer]
  let (scene, w) := w.addScene
  let w ← send w mesh pair tickTopic (.int 1) (some scene)
  let w := w.advance gapMs
  let w ← send w mesh pair tickTopic (.int 2) (some scene)
  let ctx := Context.background.withTimeout w.now (window.saturatingAdd config.requestTimeout)
  let (inTime, w) := w.spawn (.waitFlag scene Topic.pair ctx)
  let (late, w) := w.spawn (.waitFlag scene Topic.pairTimeout ctx)
  let w := w.await [inTime, late] stopLimit
  match w.report? inTime, w.report? late with
  | some (.reply (.ok p)), _ => return (pairAnswer w Topic.pair p, w)
  | _, some (.reply (.ok p)) => return (pairAnswer w Topic.pairTimeout p, w)
  | some (.reply (.error err)), _ => throw (.ofEvent err)
  | _, _ => throw (.ofEvent .cancelled)

/-! ### Whole sessions -/

/-- How a session ends. -/
inductive Finish where
  /-- The answer, after so many milliseconds. -/
  | answered (answer : Json) (millis : Nat)
  | version
  | help
  | rejected
  | failed (f : Failure)

namespace Finish

def code : Finish → UInt8
  | .answered _ _ | .version | .help => 0
  | .failed _ => 1
  | .rejected => 2

/-- How many milliseconds a session takes. -/
def millis : Finish → Nat
  | .answered _ millis => millis
  | .version | .help | .rejected | .failed _ => 0

/-- The text of the version. -/
def versionText : String := "cells 0.1.0\n"

/-- The text that explains the commands. -/
def helpText : String :=
  "Usage: cells [OPTIONS] counter --batch <BATCH>...\n" ++
  "       cells [OPTIONS] pair [--gap-ms <MS>] [--window-ms <MS>]\n\n" ++
  "Options: -d/--debug, -v/--verbose, -C/--project <DIR>, -h/--help, -V/--version\n"

/-- What goes to the standard output. -/
def output : Finish → String
  | .answered answer _ => answer.indented 0 ++ "\n"
  | .version => versionText
  | .help => helpText
  | .rejected | .failed _ => ""

/-- What goes to the error output. -/
def errors : Finish → String
  | .failed f => f.text
  | .rejected => "error: unexpected arguments\n\n" ++ helpText
  | .answered _ _ | .version | .help => ""

end Finish

/-- Carries a command out, at the given time of day. -/
def perform (now : Time.Wall) (config : Config) : Command → Except Failure (Json × Stock)
  | .counter batches => count (.startingAt now) config batches
  | .pair gapMs windowMs =>
    pair (.startingAt now) config (windowMs.elim config.window .ofMillis) gapMs.toNat

/-- How the options and the current directory tell the loader where to look. -/
def loader (globals : Globals) (directory : String) : Config.Loader :=
  { projectRoot := some (globals.project.getD directory) }

/-- The files that a session may read. -/
def filesToRead (words : List String) (home directory : String) : List String :=
  match Request.of words with
  | .run globals _ => (loader globals directory).files home
  | .version | .help | .rejected => []

/-- A whole session, in a directory and at a time of day. -/
def session (surroundings : Config.Surroundings) (directory : String) (now : Time.Wall)
    (words : List String) : Finish :=
  match Request.of words with
  | .version => .version
  | .help => .help
  | .rejected => .rejected
  | .run globals command =>
    match (loader globals directory).load surroundings with
    | .error err => .failed (.ofConfig err)
    | .ok config =>
      let config := if globals.debug then { config with debug := true } else config
      match perform now config command with
      | .error f => .failed f
      | .ok (answer, w) => .answered answer w.now.millis

end Cli

end EventMesh
