import EventMesh.Time.Duration

/-!
Configurations: four settings, each with a default. Main statements: a layer laid over a
configuration has no say in a setting for which it has the default, so that it cannot set one back, and
the last word in every other (`overlay_default`, `overlay_of_ne`).
-/

namespace EventMesh

/-- The settings of a mesh and its tools. -/
structure Config where
  /-- Verbose logging. -/
  debug : Bool := false
  /-- The name of the mesh. -/
  id : String := "cells"
  /-- How long a request waits for its reply, in milliseconds. -/
  requestMs : UInt64 := 1000
  /-- The window of a pair, in milliseconds. -/
  windowMs : UInt64 := 100
  deriving DecidableEq

namespace Config

/-- How long a request waits for its reply. -/
def requestTimeout (c : Config) : Time.Duration := .ofMillis c.requestMs

/-- The window of a pair. -/
def window (c : Config) : Time.Duration := .ofMillis c.windowMs

/-- A setting after a layer was laid over it. -/
def overlay {α : Type} [DecidableEq α] (default base layer : α) : α :=
  if layer = default then base else layer

@[simp] theorem overlay_default {α : Type} [DecidableEq α] (default base : α) :
    overlay default base default = base := if_pos rfl

theorem overlay_of_ne {α : Type} [DecidableEq α] {default layer : α} (h : layer ≠ default)
    (base : α) : overlay default base layer = layer := if_neg h

/-- A configuration with a layer laid over it. -/
def merge (base layer : Config) : Config where
  debug := overlay ({} : Config).debug base.debug layer.debug
  id := overlay ({} : Config).id base.id layer.id
  requestMs := overlay ({} : Config).requestMs base.requestMs layer.requestMs
  windowMs := overlay ({} : Config).windowMs base.windowMs layer.windowMs

end Config

end EventMesh
