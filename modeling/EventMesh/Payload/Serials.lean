import EventMesh.Payload.Basic

/-!
Identities of what is made: the storage of a payload, a foreign value and an event each take the
next number of their kind, so that two makings never give the same one.
-/

namespace EventMesh

/-- The numbers that the next storage, foreign value and event get. -/
structure Serials where
  storage : Nat := 0
  foreign : Nat := 0
  event : Nat := 0

namespace Serials

/-- The next storage number. -/
def takeStorage : StateM Serials Nat := do
  let s ← get
  set { s with storage := s.storage + 1 }
  return s.storage

/-- The next event number. -/
def takeEvent : StateM Serials Nat := do
  let s ← get
  set { s with event := s.event + 1 }
  return s.event

/-- A foreign value with the next number. -/
def makeForeign (content : ForeignContent) : StateM Serials Foreign := do
  let s ← get
  set { s with foreign := s.foreign + 1 }
  return ⟨s.foreign, content⟩

/-- The payload of a source, in the next storage. -/
def makePayload (src : Source) : StateM Serials Payload := do
  return Payload.new src (← takeStorage)

/-- The payload with a source laid over it, in the next storage. -/
def applySource (p : Payload) (src : Source) : StateM Serials Payload := do
  return p.apply src (← takeStorage)

end Serials

end EventMesh
