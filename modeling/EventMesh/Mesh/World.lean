import EventMesh.Mesh.Cell
import EventMesh.Mesh.Task
import EventMesh.Wait.Scene

/-!
Worlds: the whole state of meshes, benches, tasks and what they share, at one moment of the clock.
Whatever can go on is a job on one list of ready jobs, oldest first. Main statements: an enlisted
job is ready, and enlisting never displaces another (`mem_enlist`).
-/

namespace EventMesh

open Time

/-- A registry of running cells, and the routes between them. -/
structure Mesh where
  name : String
  requestTimeout : Duration
  /-- The incarnation that runs under each name. -/
  registry : Dict CellId CellKey := []
  /-- The subscribers of each cell, in the order of their subscription. -/
  routes : Dict CellId (List CellId) := []
  stopping : Bool := false
  nextGeneration : Nat := 1
  /-- The incarnations that a shutdown has to wait for. -/
  loops : List CellKey := []
  /-- How many hold the mesh; without a holder it is gone. -/
  holders : Nat := 1

namespace Mesh

/-- Whether somebody still holds the mesh. -/
def isAlive (m : Mesh) : Bool := m.holders > 0

/-- The subscribers of a cell. -/
def subscribers (m : Mesh) (emitter : CellId) : List CellId := (Dict.get? m.routes emitter).getD []

/-- The routes without those from or to a cell. -/
def routesWithout (m : Mesh) (id : CellId) : Dict CellId (List CellId) :=
  Dict.mapValues (·.filter (· ≠ id)) (Dict.erase m.routes id)

/-- The mesh without a cell and its routes. -/
def leave (m : Mesh) (id : CellId) : Mesh :=
  { m with registry := Dict.erase m.registry id, routes := m.routesWithout id }

/-- The inspection text of a mesh. -/
def inspect (m : Mesh) : String :=
  "Environment \x7b id: " ++ Text.quoted m.name ++ ", cells: [" ++
    String.intercalate ", " ((Dict.keys m.registry).map CellId.inspect) ++ "] \x7d"

end Mesh

/-- An event that a behavior on a bench scheduled. -/
structure Scheduled where
  delay : Duration
  event : Event
  reminder : ReminderId

/-- A behavior under trial, with all that it did. -/
structure Bench (β : Type) where
  id : CellId
  resident : β
  emitted : List Event := []
  sent : List (CellId × Event) := []
  scheduled : List Scheduled := []
  /-- Whether emissions fail. -/
  rejecting : Bool := false
  /-- The topics of the events delivered, and what the behavior returned. -/
  records : List (String × Except BehaviorError Unit) := []

/-- What can take a turn. -/
inductive Job where
  | cell (key : CellKey)
  | task (id : TaskId)
  deriving DecidableEq

/-- The whole state. -/
structure World (β : Type) where
  clock : Clock
  serials : Serials := {}
  waiters : Waiters := .empty
  flags : Flags := .empty
  scopes : Scopes := .empty
  scenes : Scenes := .empty
  reminders : Table .reminder Reminder := .empty
  tasks : Table .task Task := .empty
  cells : Table .cell (Cell β) := .empty
  meshes : Table .mesh Mesh := .empty
  benches : Table .bench (Bench β) := .empty
  ready : List Job := []

namespace World

variable {β : Type}

/-- An empty world at the given time of day. -/
def startingAt (w : Wall) : World β := { clock := .startingAt w }

/-- The reading of the running clock. -/
def now (w : World β) : Instant := w.clock.mono

/-- Runs a maker of numbered things. -/
def make {α : Type} (w : World β) (maker : StateM Serials α) : α × World β :=
  let (a, serials) := maker.run w.serials
  (a, { w with serials })

/-- What a behavior sees of the world. -/
def survey (w : World β) : Survey := ⟨w.clock, w.waiters.isSet⟩

/-! ### Ready jobs -/

/-- Puts a job at the end of the list, unless it is on it. -/
def enlist (w : World β) (j : Job) : World β :=
  if j ∈ w.ready then w else { w with ready := w.ready ++ [j] }

/-- Takes a job off the list. -/
def dismiss (w : World β) (j : Job) : World β := { w with ready := w.ready.erase j }

/-- Whether nothing can go on before the clock does. -/
def isSettled (w : World β) : Bool := w.ready.isEmpty

theorem mem_enlist (w : World β) (i j : Job) : i ∈ (w.enlist j).ready ↔ i ∈ w.ready ∨ i = j := by
  unfold enlist
  split
  · constructor
    · exact Or.inl
    · rintro (h | rfl) <;> assumption
  · simp

/-! ### Waiting -/

/-- Whether the loop of an incarnation is over. -/
def isOver (w : World β) (key : CellKey) : Bool := (w.cells.get? key).all (·.isOver)

/-- Why a context has ended, if it has. -/
def err? (w : World β) (ctx : Context) : Option EventError := ctx.err? w.scopes w.now

/-- The payload of a slot, once it is set. -/
def slotReply? (w : World β) : Slot → Option Payload
  | .waiter v => w.waiters.reply? v
  | .flag f => w.flags.reply? f

/-- How a wait that has begun ends, if it ends now: a reply counts ahead of the end of its context.
-/
def waitResult? (w : World β) (slot : Slot) (ctx : Context) : Option (Except EventError Payload) :=
  match w.slotReply? slot with
  | some p => some (.ok p)
  | none => (w.err? ctx).map .error

/-- Whether a task that has begun would come on if it got a turn. -/
def isRipe (w : World β) (t : Task) : Bool :=
  match t.progress with
  | .fresh | .finished _ | .aborted => false
  | .waiting slot ctx => (w.waitResult? slot ctx).isSome
  | .watching ctx => (w.err? ctx).isSome
  | .sleeping until_ => until_ ≤ w.now
  | .joining loops => loops.all w.isOver

/-- Enlists all tasks that would come on. -/
def wake (w : World β) : World β :=
  (w.tasks.handlesWhere w.isRipe).foldl (fun w t => w.enlist (.task t)) w

/-- Gives a waiter its reply and tells whether it had none. -/
def answer (w : World β) (waiter : WaiterId) (p : Payload) : Bool × World β :=
  let won := !w.waiters.isSet waiter
  (won, wake { w with waiters := w.waiters.set waiter p })

/-- Raises a flag: whoever waits for it gets the payload. -/
def raise (w : World β) (f : FlagId) (p : Payload) : World β :=
  wake { w with flags := w.flags.set f p }

/-- Cancels a scope and those derived from it. -/
def cancelScope (w : World β) (s : ScopeId) : World β :=
  wake { w with scopes := w.scopes.cancel s }

/-- Lets go of a scope for good. -/
def dropScope (w : World β) (s : ScopeId) : World β := { w with scopes := w.scopes.drop s }

/-- Makes a waiter. -/
def addWaiter (w : World β) : WaiterId × World β :=
  (w.waiters.next, { w with waiters := w.waiters.add {} })

/-- Makes the slot of a flag. -/
def addFlag (w : World β) : FlagId × World β :=
  (w.flags.next, { w with flags := w.flags.add {} })

/-- Makes a scene. -/
def addScene (w : World β) : SceneId × World β :=
  (w.scenes.next, { w with scenes := w.scenes.add {} })

/-- Derives a context that can be cancelled, together with its scope. -/
def deriveContext (w : World β) (ctx : Context) : (Context × ScopeId) × World β :=
  let (scopes, scope) := w.scopes.derive ctx.scope
  (({ ctx with scope := some scope }, scope), { w with scopes })

/-- Writes a payload on a scene, under a key that is free, and raises the flag of the key. -/
def store (w : World β) (scene : SceneId) (key : String) (p : Payload) :
    Except EventError Unit × World β :=
  match w.scenes.get? scene with
  | none => (.ok (), w)
  | some board =>
    if (board.fetch? key).isSome then (.error (.sceneKeyExists key), w)
    else
      let (fresh, w) := w.addFlag
      let w := { w with scenes := w.scenes.modify scene (·.store key p fresh) }
      (.ok (), w.raise (board.flag key fresh).slot p)

/-- The scopes of the contexts that bound unfinished tasks. -/
def scopesInUse (w : World β) : List ScopeId :=
  w.tasks.rows.toList.filterMap fun t =>
    if t.isOver then none else t.errand.context?.bind (·.scope)

/-- Lets go of all scopes that are neither named nor in use. -/
def dropUnheld (w : World β) (named : List ScopeId) : World β :=
  ((w.scopes.handlesWhere (!·.dropped)).filter (· ∉ named ++ w.scopesInUse)).foldl dropScope w

/-! ### Tasks and reminders -/

/-- Adds a task, which keeps its mesh alive. -/
def spawn (w : World β) (errand : Errand) : TaskId × World β :=
  let t := w.tasks.next
  let w := { w with tasks := w.tasks.add { errand } }
  let w := match errand.holds? with
    | none => w
    | some mesh =>
      { w with meshes := w.meshes.modify mesh fun m => { m with holders := m.holders + 1 } }
  (t, w.enlist (.task t))

/-- How far a task has come. -/
def progress? (w : World β) (t : TaskId) : Option Progress := (w.tasks.get? t).map (·.progress)

/-- Gives up a task, in its next turn, unless it is over. -/
def abort (w : World β) (t : TaskId) : World β :=
  if (w.tasks.get? t).any (!·.isOver) then
    { w with tasks := w.tasks.modify t fun task => { task with doomed := true } }.enlist (.task t)
  else w

/-- Makes a reminder. -/
def addReminder (w : World β) : ReminderId × World β :=
  (w.reminders.next, { w with reminders := w.reminders.add {} })

def isCancelled (w : World β) (r : ReminderId) : Bool := (w.reminders.get? r).any (·.cancelled)

/-- Calls a reminder off and gives up its task. -/
def cancelReminder (w : World β) (r : ReminderId) : World β :=
  match w.reminders.get? r with
  | none => w
  | some reminder =>
    let w := { w with
      reminders := w.reminders.modify r fun _ => { cancelled := true, task := none } }
    match reminder.task with
    | none => w
    | some t => w.abort t

/-- Lets a reminder know the task that delivers its event; one that was called off gives the task
up. -/
def attach (w : World β) (r : ReminderId) (t : TaskId) : World β :=
  if w.isCancelled r then w.abort t
  else { w with reminders := w.reminders.modify r fun reminder => { reminder with task := some t } }

end World

end EventMesh
