import EventMesh.Behavior.Script

/-!
Incarnations of cells. Each start under a name makes a new incarnation, with a queue of its own,
that is never used again once it has ended. An incarnation keeps what it accepted and which calls it
made, in order, for statements about its whole life.
-/

namespace EventMesh

/-- Where the life of an incarnation stands. -/
inductive Phase where
  /-- The first call is under way. -/
  | starting
  /-- It was not let into its mesh. -/
  | refused
  | running
  /-- The queue is closed; what is in it is still handled. -/
  | draining
  /-- The last call was made. -/
  | ended
  /-- It broke off in the middle of a recovery. -/
  | crashed
  deriving DecidableEq

/-- A call of a behavior and how it ended. -/
inductive Call where
  | init (outcome : Outcome)
  | process (e : Event) (outcome : Outcome)
  | recover (fault : BehaviorError) (outcome : Outcome)
  | terminate (outcome : Outcome)

/-- An incarnation of a cell. -/
structure Cell (β : Type) where
  mesh : MeshId
  id : CellId
  generation : Nat
  resident : β
  phase : Phase := .starting
  /-- What was accepted and is not handled yet, oldest first. -/
  queue : List Event := []
  /-- All that was ever accepted, oldest first. -/
  accepted : List Event := []
  /-- All calls made, oldest first. -/
  calls : List Call := []

namespace Cell

variable {β : Type}

/-- Whether the queue takes events. -/
def isOpen (c : Cell β) : Bool := c.phase == .running

/-- Whether the loop is over. -/
def isOver (c : Cell β) : Bool := c.phase == .ended || c.phase == .crashed

/-- The incarnation with one more event in its queue. -/
def accept (c : Cell β) (e : Event) : Cell β :=
  { c with queue := c.queue ++ [e], accepted := c.accepted ++ [e] }

/-- The incarnation after a call. -/
def after (c : Cell β) (call : Call) (resident : β) : Cell β :=
  { c with resident, calls := c.calls ++ [call] }

/-- Closes the queue of a running incarnation. -/
def close (c : Cell β) : Cell β :=
  if c.phase == .running then { c with phase := .draining } else c

@[simp] theorem close_close (c : Cell β) : c.close.close = c.close := by
  unfold close
  split <;> simp_all

@[simp] theorem accepted_close (c : Cell β) : c.close.accepted = c.accepted := by
  unfold close
  split <;> rfl

/-- The events that were handed to the behavior, oldest first. -/
def handled (c : Cell β) : List Event :=
  c.calls.filterMap fun
    | .process e _ => some e
    | _ => none

@[simp] theorem handled_after_init (c : Cell β) (outcome : Outcome) (resident : β) :
    (c.after (.init outcome) resident).handled = c.handled := by
  simp [handled, after]

@[simp] theorem handled_after_process (c : Cell β) (e : Event) (outcome : Outcome) (resident : β) :
    (c.after (.process e outcome) resident).handled = c.handled ++ [e] := by
  simp [handled, after]

@[simp] theorem handled_after_recover (c : Cell β) (fault : BehaviorError) (outcome : Outcome)
    (resident : β) : (c.after (.recover fault outcome) resident).handled = c.handled := by
  simp [handled, after]

@[simp] theorem handled_after_terminate (c : Cell β) (outcome : Outcome) (resident : β) :
    (c.after (.terminate outcome) resident).handled = c.handled := by
  simp [handled, after]

end Cell

end EventMesh
