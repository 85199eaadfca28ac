import EventMesh.Event.Basic
import EventMesh.Mesh.Error
import EventMesh.Wait.Context
import EventMesh.Wait.Waiter

/-!
Tasks: work that waits for something to happen while the cells go on. A task takes its first step in
its first turn and then waits until it can report.
-/

namespace EventMesh

open Time

/-- What a task is there to do. -/
inductive Errand where
  /-- Waits for a waiter. -/
  | wait (waiter : WaiterId) (ctx : Context)
  /-- Waits until a key of a scene is written. -/
  | waitFlag (scene : SceneId) (key : String) (ctx : Context)
  /-- Sends an event with a waiter to a cell and waits for the reply. -/
  | request (mesh : MeshId) (target : CellId) (topic : String) (values : Source) (ctx : Context)
  /-- Asks a counter for its counts. -/
  | tally (mesh : MeshId) (target : CellId) (ctx : Context) (timeout : Duration)
  /-- Waits for the end of a context. -/
  | watch (ctx : Context)
  | sleep (span : Duration)
  /-- Sends an event back to the cell that scheduled it. -/
  | remind (cell : CellKey) (reminder : ReminderId) (delay : Duration) (event : Event)
  /-- Shuts a mesh down and waits for its cells. -/
  | shutdown (mesh : MeshId)

/-- What a task brings back. -/
inductive Report where
  | reply (r : Except EventError Payload)
  | response (r : Except MeshError Payload)
  | counts (r : Except MeshError (Dict String Int64))
  | contextEnded (e : EventError)
  | slept
  | reminded
  | shutDown

/-- How far a task has come. -/
inductive Progress where
  /-- The first step is yet to come. -/
  | fresh
  | waiting (slot : Slot) (ctx : Context)
  | watching (ctx : Context)
  | sleeping (until_ : Instant)
  /-- Waits for the loops of incarnations. -/
  | joining (loops : List CellKey)
  | finished (report : Report)
  | aborted

/-- A task. -/
structure Task where
  errand : Errand
  progress : Progress := .fresh
  /-- Whether the task is to be given up in its next turn. -/
  doomed : Bool := false
  /-- The waiters as they were when the task came to an end, to see its report as it was then. -/
  seen : Waiters := .empty

namespace Task

/-- Whether the task has come to an end. -/
def isOver (t : Task) : Bool :=
  match t.progress with
  | .finished _ | .aborted => true
  | .fresh | .waiting _ _ | .watching _ | .sleeping _ | .joining _ => false

/-- Whether the first step was taken. -/
def isBegun (t : Task) : Bool :=
  match t.progress with
  | .fresh => false
  | .waiting _ _ | .watching _ | .sleeping _ | .joining _ | .finished _ | .aborted => true

/-- The instant at which waiting alone brings the task on. -/
def due? (t : Task) : Option Instant :=
  match t.progress with
  | .waiting _ ctx | .watching ctx => ctx.deadline
  | .sleeping until_ => some until_
  | .fresh | .joining _ | .finished _ | .aborted => none

end Task

namespace Errand

/-- The mesh that the task keeps alive until it is over. -/
def holds? : Errand → Option MeshId
  | .request mesh .. | .tally mesh .. | .shutdown mesh => some mesh
  | .wait .. | .waitFlag .. | .watch _ | .sleep _ | .remind .. => none

/-- The context that bounds the task. -/
def context? : Errand → Option Context
  | .wait _ ctx | .waitFlag _ _ ctx | .request _ _ _ _ ctx | .tally _ _ ctx _ | .watch ctx => some ctx
  | .sleep _ | .remind .. | .shutdown _ => none

/-- The counts that a reply holds, all of which have to be integers. -/
def countsOf (reply : Payload) : Except MeshError (Dict String Int64) :=
  reply.entries.mapM fun (key, v) =>
    match v with
    | .int n => .ok (key, n)
    | v => .error (.invalidResponse ("counter " ++ Text.quoted key ++ " holds " ++ v.kind))

/-- What a task reports when its request ended. -/
def reportResponse (errand : Errand) (r : Except MeshError Payload) : Report :=
  match errand with
  | .tally .. => .counts (r.bind countsOf)
  | .wait .. | .waitFlag .. | .request .. | .watch _ | .sleep _ | .remind .. | .shutdown _ =>
    .response r

/-- What a task reports when its wait ended. -/
def reportWait (errand : Errand) (r : Except EventError Payload) : Report :=
  match errand with
  | .wait .. | .waitFlag .. => .reply r
  | .request .. | .tally .. | .watch _ | .sleep _ | .remind .. | .shutdown _ =>
    errand.reportResponse (r.mapError .request)

end Errand

/-- A scheduled event that can be called off. -/
structure Reminder where
  cancelled : Bool := false
  /-- The task that will deliver the event. -/
  task : Option TaskId := none

end EventMesh
