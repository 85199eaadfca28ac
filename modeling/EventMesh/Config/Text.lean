import EventMesh.Config.Basic
import EventMesh.Toml.Printer
import EventMesh.Toml.Reader

/-!
Configuration texts. Every setting may be missing, and what is not a setting is passed over. A
section may also be written as an array that gives its settings by position.
-/

namespace EventMesh.Config

open Toml

/-! ### Reading -/

def readBool : Toml.Value → Option Bool
  | .boolean b => some b
  | _ => none

def readString : Toml.Value → Option String
  | .string s => some s
  | _ => none

/-- A whole number that is not negative. -/
def readNumber : Toml.Value → Option UInt64
  | .integer (.ofNat n) => some (.ofNat n)
  | _ => none

/-- A setting that may be missing. -/
def setting {α : Type} (read : Toml.Value → Option α) (default : α) : Option Toml.Value → Option α
  | none => some default
  | some v => read v

/-- The value of the only setting of a section: under its name, or at the first place of an array. A
time has no settings. -/
def onlySetting (name : String) : Toml.Value → Option (Option Toml.Value)
  | .table _ es => some (Dict.get? es name)
  | .array items => some items.head?
  | .tables elements => some (elements.head?.map (.table .header))
  | .datetime _ => some none
  | _ => none

/-- A setting inside a section, both of which may be missing. -/
def sectionSetting {α : Type} (es : Entries) (section_ name : String) (read : Toml.Value → Option α)
    (default : α) : Option α :=
  match Dict.get? es section_ with
  | none => some default
  | some v => (onlySetting name v).bind (setting read default)

/-- The configuration that the entries of a text give. -/
def ofEntries? (es : Entries) : Option Config := do
  return {
    debug := ← setting readBool ({} : Config).debug (Dict.get? es "debug")
    id := ← sectionSetting es "environment" "id" readString ({} : Config).id
    requestMs := ← sectionSetting es "timeouts" "request_ms" readNumber ({} : Config).requestMs
    windowMs := ← sectionSetting es "pair" "window_ms" readNumber ({} : Config).windowMs }

/-- Reads a configuration text. -/
def ofText? (text : String) : Option Config := (parse? text).bind ofEntries?

/-! ### Writing -/

/-- A number that can be written. -/
def numberText? (n : UInt64) : Option String :=
  if n.toNat ≤ maxInteger then some (toString n.toNat) else none

/-- Writes all settings. Numbers beyond 63 bits cannot be written. -/
def toText? (c : Config) : Option String := do
  return "debug = " ++ toString c.debug ++ "\n\n[environment]\nid = " ++ stringText c.id ++
    "\n\n[timeouts]\nrequest_ms = " ++ (← numberText? c.requestMs) ++
    "\n\n[pair]\nwindow_ms = " ++ (← numberText? c.windowMs) ++ "\n"

end EventMesh.Config
