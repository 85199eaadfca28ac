import EventMesh.Event.Basic
import EventMesh.Mesh.Error
import EventMesh.Time.Clock

/-!
Scripts: what a behavior does in one call, as data. A script asks its surroundings for one thing
after the other and goes on according to the answers, until it finishes with the behavior's next
state. It touches nothing itself, so that the same behavior runs in a mesh and on a bench.
-/

namespace EventMesh

open Time

/-- The cell that a behavior speaks through: one of a mesh, or one that only records. -/
inductive Outlet where
  | cell (mesh : MeshId) (key : CellKey) (id : CellId) (generation : Nat)
  | bench (bench : BenchId) (id : CellId)
  deriving DecidableEq

namespace Outlet

/-- The name of the cell. -/
def id : Outlet → CellId
  | .cell _ _ id _ => id
  | .bench _ id => id

/-- The inspection text of a cell of a mesh. -/
def inspect? : Outlet → Option String
  | .cell _ _ id generation =>
    some ("MeshCell \x7b id: " ++ id.inspect ++ ", generation: " ++ toString generation ++ " \x7d")
  | .bench _ _ => none

end Outlet

/-- How a call broke off; a panic may carry something that is not a text. -/
structure Panic where
  message : Option String
  deriving DecidableEq

/-- The text under which a panic is reported. -/
def Panic.text (p : Panic) : String := p.message.getD "unknown panic"

/-- How a call ended. -/
inductive Outcome where
  | done
  | failed (e : BehaviorError)
  | panicked (p : Panic)
  deriving DecidableEq

/-- The end of a call that returns the given result. -/
def Outcome.ofResult : Except BehaviorError Unit → Outcome
  | .ok () => .done
  | .error e => .failed e

/-- What a behavior can see of its surroundings. -/
structure Survey where
  clock : Clock
  /-- Which waiters have their reply. -/
  answered : WaiterId → Bool

/-- What behaviors of type `β` do in one call. -/
inductive Script (β : Type) where
  /-- The call ends and leaves the behavior in the given state. -/
  | finish (next : β) (outcome : Outcome)
  | survey (k : Survey → Script β)
  /-- A payload is made. -/
  | build (values : Source) (k : Payload → Script β)
  /-- An event is made. -/
  | create (topic : String) (values : Source) (scene : Option SceneId) (k : Event → Script β)
  /-- An event goes to all subscribers of the cell. -/
  | emit (outlet : Outlet) (event : Event) (k : Except BehaviorError Unit → Script β)
  /-- An event goes to one cell. -/
  | emitTo (outlet : Outlet) (target : CellId) (event : Event)
      (k : Except BehaviorError Unit → Script β)
  /-- An event comes back to the cell itself after a delay. -/
  | emitAfter (outlet : Outlet) (delay : Duration) (event : Event) (k : ReminderId → Script β)
  | cancelReminder (reminder : ReminderId) (k : Script β)
  /-- A waiter gets its reply, if it has none yet. -/
  | answer (waiter : WaiterId) (reply : Payload) (k : Bool → Script β)
  /-- A payload is written on a scene. -/
  | store (scene : SceneId) (key : String) (payload : Payload)
      (k : Except EventError Unit → Script β)
  /-- Another cell is started; its own first call comes in between. -/
  | start (mesh : MeshId) (id : CellId) (seed : β) (init : Outlet → Script β)
      (k : Except MeshError Unit → Script β)
  /-- The mesh starts to shut down. -/
  | stopMesh (mesh : MeshId) (k : Script β)

/-- The script of a behavior as a script of a larger type of behaviors. -/
def Script.map {α β : Type} (f : α → β) : Script α → Script β
  | .finish next outcome => .finish (f next) outcome
  | .survey k => .survey fun s => (k s).map f
  | .build values k => .build values fun p => (k p).map f
  | .create topic values scene k => .create topic values scene fun e => (k e).map f
  | .emit outlet event k => .emit outlet event fun r => (k r).map f
  | .emitTo outlet target event k => .emitTo outlet target event fun r => (k r).map f
  | .emitAfter outlet delay event k => .emitAfter outlet delay event fun r => (k r).map f
  | .cancelReminder reminder k => .cancelReminder reminder (k.map f)
  | .answer waiter reply k => .answer waiter reply fun won => (k won).map f
  | .store scene key payload k => .store scene key payload fun r => (k r).map f
  | .start mesh id seed init k =>
    .start mesh id (f seed) (fun outlet => (init outlet).map f) fun r => (k r).map f
  | .stopMesh mesh k => .stopMesh mesh (k.map f)

/-- The four calls that a cell makes. -/
class Behavior (β : Type) where
  /-- Gets the outlet before the first event; a failure keeps the cell from starting. -/
  init : β → Outlet → Script β
  /-- Handles one event; a failure is reported and the cell goes on. -/
  process : β → Event → Script β
  /-- Told of a panic while an event was handled; a failure stops the cell. -/
  recover : β → BehaviorError → Script β := fun b _ => .finish b .done
  /-- The last call. -/
  terminate : β → Script β := fun b => .finish b .done

end EventMesh
