import EventMesh.Config.Loader
import Mathlib

/-!
# Which layer decides a setting

A layer of a configuration – the global file, the project's file, the variables – names some of the
settings and says nothing about the others. A file is read into a whole configuration, in which the
settings that it does not name are the defaults, and is then laid over what the layers below it
gave by comparison with the defaults. So a file that names a default counts as one that does not
name the setting at all, while a variable counts whatever it says.

Main statement: for every loader and all layers that are understood, loading succeeds and each
setting is the one of the highest layer that has a say in it (`load_decided`). The highest layer
that merely names a setting wins exactly if the project's file does not set back to the default what
the global file changed (`decided_eq_named_iff`); `load_setBack` is a case where it loses.
-/

namespace EventMesh.Config

open Toml

/-! ### What a layer names -/

/-- The settings that a layer names. -/
structure Layer where
  debug : Option Bool := none
  id : Option String := none
  requestMs : Option UInt64 := none
  windowMs : Option UInt64 := none
  deriving DecidableEq

/-- The value that is named, if one is; nothing if what is there is not understood. -/
def named? {α β : Type} (read : β → Option α) : Option β → Option (Option α)
  | none => some none
  | some v => (read v).map some

/-- The value that is named inside a section. -/
def sectionNamed? {α : Type} (es : Entries) (section_ name : String) (read : Toml.Value → Option α) :
    Option (Option α) :=
  match Dict.get? es section_ with
  | none => some none
  | some v => (onlySetting name v).bind (named? read)

/-- What the entries of a text name. -/
def Layer.ofEntries? (es : Entries) : Option Layer := do
  return {
    debug := ← named? readBool (Dict.get? es "debug")
    id := ← sectionNamed? es "environment" "id" readString
    requestMs := ← sectionNamed? es "timeouts" "request_ms" readNumber
    windowMs := ← sectionNamed? es "pair" "window_ms" readNumber }

/-- What a file names. A missing file names nothing. -/
def Layer.ofFile? : FileContent → Option Layer
  | .missing => some {}
  | .unreadable _ => none
  | .bytes content => (String.fromUTF8? content).bind fun text => (parse? text).bind ofEntries?

/-- What the variables name. -/
def Layer.ofVariables? (s : Surroundings) : Option Layer := do
  return {
    debug := ← named? (fun t => (readFlag t).toOption) (s.text? debugVariable)
    requestMs := ← named? (fun t => (readMillis t).toOption) (s.text? requestVariable)
    windowMs := ← named? (fun t => (readMillis t).toOption) (s.text? windowVariable)
    id := s.text? idVariable }

/-- What the global file names, as far as it is loaded. -/
def Loader.global? (l : Loader) (s : Surroundings) : Option Layer :=
  if l.useGlobal then Layer.ofFile? (s.file (l.globalPath.getD (fileIn s.home))) else some {}

/-- What the project's file names, as far as it is loaded. -/
def Loader.project? (l : Loader) (s : Surroundings) : Option Layer :=
  match l.projectRoot with
  | some root => if l.useProject then Layer.ofFile? (s.file (fileIn root)) else some {}
  | none => some {}

/-- What the variables name, as far as they are loaded. -/
def Loader.variables? (l : Loader) (s : Surroundings) : Option Layer :=
  if l.useVariables then Layer.ofVariables? s else some {}

/-! ### Laying a layer over a configuration -/

/-- A configuration in which a layer replaces everything that it names. -/
def Layer.over (layer : Layer) (c : Config) : Config where
  debug := layer.debug.getD c.debug
  id := layer.id.getD c.id
  requestMs := layer.requestMs.getD c.requestMs
  windowMs := layer.windowMs.getD c.windowMs

/-- A layer read as a whole configuration. -/
def Layer.filled (layer : Layer) : Config := layer.over {}

/-- The say of a file in a setting: naming the default is saying nothing. -/
def say {α : Type} [DecidableEq α] (default : α) (named : Option α) : Option α :=
  named.filter fun v => v ≠ default

/-- The value of the highest layer that has a say in a setting. -/
def decided {α : Type} [DecidableEq α] (default : α) (vars project global : Option α) : α :=
  (vars <|> say default project <|> say default global).getD default

/-- A configuration in which each setting is that of the highest layer that has a say in it. -/
structure Decided (vars project global : Layer) (c : Config) : Prop where
  debug : c.debug = decided ({} : Config).debug vars.debug project.debug global.debug
  id : c.id = decided ({} : Config).id vars.id project.id global.id
  requestMs : c.requestMs =
    decided ({} : Config).requestMs vars.requestMs project.requestMs global.requestMs
  windowMs : c.windowMs =
    decided ({} : Config).windowMs vars.windowMs project.windowMs global.windowMs

section Say

variable {α : Type} [DecidableEq α]

@[simp] theorem say_none (default : α) : say default none = none := rfl

@[simp] theorem say_default (default : α) : say default (some default) = none := by simp [say]

theorem say_of_ne {default v : α} (h : v ≠ default) : say default (some v) = some v := by
  simp [say, Option.filter, h]

/-- A default has no say and, without a say, the default stands. -/
@[simp] theorem getD_say (default : α) (named : Option α) :
    (say default named).getD default = named.getD default := by
  cases named with
  | none => rfl
  | some v =>
    by_cases h : v = default
    · simp [h]
    · rw [say_of_ne h]

theorem overlay_getD (default base : α) (named : Option α) :
    overlay default base (named.getD default) = (say default named).getD base := by
  cases named with
  | none => exact overlay_default default base
  | some v =>
    by_cases h : v = default
    · simp [h]
    · rw [say_of_ne h]
      exact overlay_of_ne h base

theorem getD_getD_eq_decided (default : α) (vars project global : Option α) :
    vars.getD ((say default project).getD ((say default global).getD default)) =
      decided default vars project global := by
  cases vars <;> cases h : say default project <;> simp [decided, h]

/-- The highest layer that names a setting decides it unless the project's file names the default,
the global file something else and no variable anything. -/
theorem decided_eq_named_iff (default : α) (vars project global : Option α) :
    decided default vars project global = (vars <|> project <|> global).getD default ↔
      vars.isSome ∨ project ≠ some default ∨ global.getD default = default := by
  cases vars with
  | some v => simp [decided]
  | none =>
    cases project with
    | none => simp [decided]
    | some v =>
      by_cases h : v = default
      · simp [decided, h]
      · simp [decided, say_of_ne h, h]

end Say

/-- Laying the two files over the defaults and the variables over the result lets the highest say
decide. -/
theorem decided_over (vars project global : Layer) :
    Decided vars project global
      (vars.over ((({} : Config).merge global.filled).merge project.filled)) := by
  constructor <;>
    simp only [Layer.over, Config.merge, Layer.filled, overlay_getD, getD_getD_eq_decided]

/-! ### Reading -/

theorem setting_eq {α : Type} (read : Toml.Value → Option α) (default : α)
    (v : Option Toml.Value) : setting read default v = (named? read v).map (·.getD default) := by
  cases v with
  | none => rfl
  | some v => cases h : read v <;> simp [setting, named?, h]

theorem sectionSetting_eq {α : Type} (es : Entries) (section_ name : String)
    (read : Toml.Value → Option α) (default : α) :
    sectionSetting es section_ name read default =
      (sectionNamed? es section_ name read).map (·.getD default) := by
  unfold sectionSetting sectionNamed?
  cases Dict.get? es section_ with
  | none => rfl
  | some v =>
    cases h : onlySetting name v with
    | none => simp [h]
    | some only => simpa [h] using setting_eq read default only

/-- A text is read as the configuration that what it names fills up. -/
theorem ofEntries?_eq (es : Entries) : ofEntries? es = (Layer.ofEntries? es).map Layer.filled := by
  simp only [ofEntries?, Layer.ofEntries?, setting_eq, sectionSetting_eq]
  cases named? readBool (Dict.get? es "debug") with
  | none => rfl
  | some debug =>
    cases sectionNamed? es "environment" "id" readString with
    | none => rfl
    | some id =>
      cases sectionNamed? es "timeouts" "request_ms" readNumber with
      | none => rfl
      | some requestMs => cases sectionNamed? es "pair" "window_ms" readNumber <;> rfl

theorem merge_default (c : Config) : c.merge (Layer.filled {}) = c := rfl

/-- A file that is understood is laid over the configuration, whether it is there or not. -/
theorem mergeFiles_cons {s : Surroundings} {path : String} {layer : Layer}
    (h : Layer.ofFile? (s.file path) = some layer) (rest : List String) (c : Config) :
    mergeFiles s (path :: rest) c = mergeFiles s rest (c.merge layer.filled) := by
  have hat : layerAt s path = .ok none ∧ layer = {} ∨ layerAt s path = .ok (some layer.filled) := by
    unfold layerAt
    cases hfile : s.file path with
    | missing => simpa [hfile, Layer.ofFile?, eq_comm] using h
    | unreadable reason => simp [hfile, Layer.ofFile?] at h
    | bytes content =>
      rw [hfile] at h
      obtain ⟨text, htext, h⟩ := Option.bind_eq_some_iff.mp h
      obtain ⟨es, hes, h⟩ := Option.bind_eq_some_iff.mp h
      simp [htext, ofText?, hes, ofEntries?_eq, h]
  rcases hat with ⟨hat, rfl⟩ | hat
  · simp only [mergeFiles, hat, merge_default]; rfl
  · simp only [mergeFiles, hat]; rfl

/-- The files that are loaded are laid over the configuration, the project's last. -/
theorem mergeFiles_files {l : Loader} {s : Surroundings} {global project : Layer}
    (hglobal : l.global? s = some global) (hproject : l.project? s = some project) (c : Config) :
    mergeFiles s (l.files s.home) c = .ok ((c.merge global.filled).merge project.filled) := by
  have hlast (c : Config) : mergeFiles s
      (if l.useProject then (l.projectRoot.map fileIn).toList else []) c =
        .ok (c.merge project.filled) := by
    unfold Loader.project? at hproject
    cases hroot : l.projectRoot with
    | none =>
      obtain rfl : ({} : Layer) = project := by simpa [hroot] using hproject
      simp [mergeFiles, merge_default]
    | some root =>
      by_cases huse : l.useProject = true
      · simp only [hroot, huse, if_true] at hproject
        rw [if_pos huse]
        exact mergeFiles_cons hproject [] c
      · obtain rfl : ({} : Layer) = project := by simpa [hroot, huse] using hproject
        simp [huse, mergeFiles, merge_default]
  unfold Loader.global? at hglobal
  unfold Loader.files
  by_cases huse : l.useGlobal = true
  · rw [if_pos huse] at hglobal
    rw [if_pos huse, List.singleton_append, mergeFiles_cons hglobal, hlast]
  · obtain rfl : ({} : Layer) = global := by simpa [huse] using hglobal
    rw [if_neg huse, List.nil_append, hlast, merge_default]

/-- A variable that is understood replaces the setting if it is set. -/
theorem fromVariable_eq {α : Type} {s : Surroundings} {name : String}
    {read : String → Except String α} {value : Option α}
    (h : named? (fun t => (read t).toOption) (s.text? name) = some value) (current : α) :
    fromVariable s name read current = .ok (value.getD current) := by
  unfold fromVariable
  cases htext : s.text? name with
  | none =>
    obtain rfl : none = value := by simpa [htext, named?] using h
    rfl
  | some text =>
    cases hread : read text with
    | error reason => simp [htext, named?, hread, Except.toOption] at h
    | ok v =>
      obtain rfl : some v = value := by simpa [htext, named?, hread, Except.toOption] using h
      simp [hread, Except.mapError]

/-- Variables that are understood replace everything that they name. -/
theorem applyVariables_eq {s : Surroundings} {vars : Layer}
    (h : Layer.ofVariables? s = some vars) (c : Config) :
    applyVariables s c = .ok (vars.over c) := by
  obtain ⟨debug, hdebug, h⟩ := Option.bind_eq_some_iff.mp h
  obtain ⟨requestMs, hrequest, h⟩ := Option.bind_eq_some_iff.mp h
  obtain ⟨windowMs, hwindow, h⟩ := Option.bind_eq_some_iff.mp h
  obtain rfl := Option.some.inj h
  have hid : fromVariable s idVariable .ok c.id = .ok ((s.text? idVariable).getD c.id) :=
    fromVariable_eq (by cases s.text? idVariable <;> rfl) c.id
  simp only [applyVariables, fromVariable_eq hdebug, fromVariable_eq hrequest,
    fromVariable_eq hwindow, hid]
  rfl

/-! ### Loading -/

/-- **Layers decide by their order, setting by setting.** Whatever layers are loaded, if each of
them is understood, loading succeeds. A setting is then what a variable says; without a variable,
what the project's file names besides the default; failing that, what the global file names besides
the default; and else the default. -/
theorem load_decided {l : Loader} {s : Surroundings} {global project vars : Layer}
    (hglobal : l.global? s = some global) (hproject : l.project? s = some project)
    (hvariables : l.variables? s = some vars) :
    ∃ c, l.load s = .ok c ∧ Decided vars project global c := by
  refine ⟨_, ?_, decided_over vars project global⟩
  unfold Loader.load
  rw [mergeFiles_files hglobal hproject]
  unfold Loader.variables? at hvariables
  by_cases huse : l.useVariables = true
  · rw [if_pos huse] at hvariables
    exact (if_pos huse).trans (applyVariables_eq hvariables _)
  · obtain rfl : ({} : Layer) = vars := by simpa [huse] using hvariables
    exact if_neg huse

/-- A global file that turns on verbose logging, a project that wants it off, and a variable for the
window. -/
def quietProject : Surroundings where
  home := "/home"
  file path :=
    if path = "/home/.cells/config.toml" then .bytes "debug = true\n".toUTF8
    else if path = "/project/.cells/config.toml" then .bytes "debug = false\n".toUTF8
    else .missing
  text? name := if name = windowVariable then some "75" else none

theorem load_decided_quietProject :
    ∃ c, ({ projectRoot := some "/project" } : Loader).load quietProject = .ok c ∧
      Decided { windowMs := some 75 } { debug := some false } { debug := some true } c :=
  load_decided (by cbv) (by cbv) (by cbv)

/-- The project's file is the highest layer that names the verbose logging, and the one that loses:
it sets the setting back to the default. -/
theorem load_setBack :
    ∃ c global project vars,
      ({ projectRoot := some "/project" } : Loader).load quietProject = .ok c ∧
        Loader.global? { projectRoot := some "/project" } quietProject = some global ∧
        Loader.project? { projectRoot := some "/project" } quietProject = some project ∧
        Loader.variables? { projectRoot := some "/project" } quietProject = some vars ∧
        project.debug = some false ∧
        c.debug ≠ (vars.debug <|> project.debug <|> global.debug).getD false := by
  refine ⟨{ debug := true, windowMs := 75 }, { debug := some true }, { debug := some false },
    { windowMs := some 75 }, by cbv, by cbv, by cbv, by cbv, rfl, by decide⟩

end EventMesh.Config
