import EventMesh.Config.Error
import EventMesh.Config.Text
import EventMesh.Decimal.Word
import EventMesh.Text.Blank
import EventMesh.Text.Quoted

/-!
Loading a configuration from layers: the defaults, the global file, the project's file and the
variables, later ones winning. A missing file is passed over; one that is there has to be
understood. A variable that is set always counts, even if it names the default.
-/

namespace EventMesh.Config

/-! ### Places -/

/-- The directory that holds the configuration file. -/
def directoryName : String := ".cells"

def fileName : String := "config.toml"

/-- A name inside a directory. -/
def joinPath (directory name : String) : String :=
  match directory.toList.getLast? with
  | none | some '/' => directory ++ name
  | some _ => directory ++ "/" ++ name

/-- The configuration directory under a root. -/
def directoryIn (root : String) : String := joinPath root directoryName

/-- The configuration file under a root. -/
def fileIn (root : String) : String := joinPath (directoryIn root) fileName

/-! ### Surroundings -/

/-- What a path leads to. -/
inductive FileContent where
  /-- Nothing, or something that is not a file. -/
  | missing
  | unreadable (reason : String)
  | bytes (content : ByteArray)

/-- What a loader sees of the system. -/
structure Surroundings where
  home : String
  file : String → FileContent
  /-- The texts of the variables that are set to a text. -/
  text? : String → Option String

/-! ### Files -/

/-- Reads the configuration file at a path, if there is one. -/
def layerAt (s : Surroundings) (path : String) : Except ConfigError (Option Config) :=
  match s.file path with
  | .missing => .ok none
  | .unreadable reason => .error (.unreadable path reason)
  | .bytes content =>
    match String.fromUTF8? content with
    | none => .error (.unreadable path "stream did not contain valid UTF-8")
    | some text =>
      match ofText? text with
      | none => .error (.malformed path "TOML parse error")
      | some config => .ok (some config)

/-- Lays files over a configuration, from left to right. -/
def mergeFiles (s : Surroundings) : List String → Config → Except ConfigError Config
  | [], config => .ok config
  | path :: rest, config => do
    match ← layerAt s path with
    | none => mergeFiles s rest config
    | some layer => mergeFiles s rest (config.merge layer)

/-! ### Variables -/

def debugVariable : String := "CELLS_DEBUG"
def requestVariable : String := "CELLS_REQUEST_TIMEOUT_MS"
def windowVariable : String := "CELLS_PAIR_WINDOW_MS"
def idVariable : String := "CELLS_ENVIRONMENT_ID"

/-- The variables that are settings. -/
def variableNames : List String := [debugVariable, requestVariable, windowVariable, idVariable]

/-- Reads a truth value, with blanks around it, in any case. -/
def readFlag? (text : String) : Option Bool :=
  let word := String.ofList ((Text.trim text.toList).map Char.toLower)
  if word ∈ ["true", "1", "yes", "on"] then some true
  else if word ∈ ["false", "0", "no", "off"] then some false
  else none

/-- A setting that a variable may replace. -/
def fromVariable {α : Type} (s : Surroundings) (name : String)
    (read : String → Except String α) (current : α) : Except ConfigError α :=
  match s.text? name with
  | none => .ok current
  | some text => (read text).mapError (.invalidVariable name)

def readFlag (text : String) : Except String Bool :=
  match readFlag? text with
  | some b => .ok b
  | none => .error (Text.quoted text ++ " is not a bool")

/-- Reads a number, with blanks around it. -/
def readMillis (text : String) : Except String UInt64 :=
  (Decimal.readWord (Text.trim text.toList)).mapError fun fault =>
    Text.quoted text ++ ": " ++ fault.message

/-- Lays the variables over a configuration. -/
def applyVariables (s : Surroundings) (c : Config) : Except ConfigError Config := do
  let debug ← fromVariable s debugVariable readFlag c.debug
  let requestMs ← fromVariable s requestVariable readMillis c.requestMs
  let windowMs ← fromVariable s windowVariable readMillis c.windowMs
  let id ← fromVariable s idVariable .ok c.id
  return { debug, id, requestMs, windowMs }

/-! ### Layers -/

/-- Which layers are loaded, and from where. -/
structure Loader where
  /-- The global file, if it is not the one in the home directory. -/
  globalPath : Option String := none
  /-- Without a root there is no project file. -/
  projectRoot : Option String := none
  useGlobal : Bool := true
  useProject : Bool := true
  useVariables : Bool := true

/-- The files to read, those of lower priority first. -/
def Loader.files (l : Loader) (home : String) : List String :=
  (if l.useGlobal then [l.globalPath.getD (fileIn home)] else []) ++
    (if l.useProject then (l.projectRoot.map fileIn).toList else [])

/-- Loads a configuration. -/
def Loader.load (l : Loader) (s : Surroundings) : Except ConfigError Config := do
  let config ← mergeFiles s (l.files s.home) {}
  if l.useVariables then applyVariables s config else return config

end EventMesh.Config
