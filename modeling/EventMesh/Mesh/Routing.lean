import EventMesh.Mesh.World

/-!
Routing: how events get into queues, and the routes that emissions follow. A mesh that is stopping
takes no event; a cell takes events while it is registered and its queue is open.
-/

namespace EventMesh.World

variable {β : Type}

/-- What can be done with a mesh that is not stopping. -/
def ifOpen {α : Type} (w : World β) (mesh : MeshId) (act : Mesh → Except MeshError α) :
    Except MeshError α :=
  match w.meshes.get? mesh with
  | none => .error .shuttingDown
  | some m => if m.stopping then .error .shuttingDown else act m

/-- Changes a mesh. -/
def modifyMesh (w : World β) (mesh : MeshId) (f : Mesh → Mesh) : World β :=
  { w with meshes := w.meshes.modify mesh f }

/-- Whether a mesh is still held. -/
def isAlive (w : World β) (mesh : MeshId) : Bool := (w.meshes.get? mesh).any (·.isAlive)

/-- Changes an incarnation. -/
def modifyCell (w : World β) (key : CellKey) (f : Cell β → Cell β) : World β :=
  { w with cells := w.cells.modify key f }

/-! ### Delivery -/

/-- The incarnation that takes events under a name. -/
def taker? (w : World β) (m : Mesh) (target : CellId) : Option CellKey :=
  (Dict.get? m.registry target).filter fun key => (w.cells.get? key).any (·.isOpen)

/-- Puts an event into the queue of an incarnation. -/
def accept (w : World β) (key : CellKey) (e : Event) : World β :=
  (w.modifyCell key (·.accept e)).enlist (.cell key)

/-- The incarnation that takes an event sent to a name, or why there is none. -/
def route (w : World β) (mesh : MeshId) (target : CellId) : Except MeshError CellKey :=
  w.ifOpen mesh fun m =>
    match w.taker? m target with
    | none => .error (.cellNotFound target)
    | some key => .ok key

/-- Sends an event to a cell. -/
def deliver (w : World β) (mesh : MeshId) (target : CellId) (e : Event) :
    Except MeshError Unit × World β :=
  match w.route mesh target with
  | .error err => (.error err, w)
  | .ok key => (.ok (), w.accept key e)

/-- Sends an event to one incarnation, as long as somebody holds its mesh and it is the registered
one. -/
def deliverTo (w : World β) (key : CellKey) (e : Event) : World β :=
  match w.cells.get? key with
  | none => w
  | some c =>
    if w.isAlive c.mesh then
      match w.route c.mesh c.id with
      | .error _ => w
      | .ok taker => if taker = key then w.accept key e else w
    else w

/-- Sends an event to all subscribers of a cell; those that take no events are passed over. -/
def publish (w : World β) (mesh : MeshId) (emitter : CellId) (e : Event) :
    Except MeshError Unit × World β :=
  match w.ifOpen mesh fun m => .ok (m.subscribers emitter) with
  | .error err => (.error err, w)
  | .ok targets => (.ok (), targets.foldl (fun w target => (w.deliver mesh target e).2) w)

/-! ### Subscriptions -/

/-- The cells of a mesh, by name. -/
def cellIds (w : World β) (mesh : MeshId) : List CellId :=
  ((w.meshes.get? mesh).map fun m => Dict.keys m.registry).getD []

def hasCell (w : World β) (mesh : MeshId) (id : CellId) : Bool :=
  (w.meshes.get? mesh).any fun m => Dict.contains m.registry id

/-- The subscribers of a cell, in the order of their subscription. -/
def subscribers (w : World β) (mesh : MeshId) (emitter : CellId) : List CellId :=
  ((w.meshes.get? mesh).map (·.subscribers emitter)).getD []

/-- Adds what is not in a list yet at its end. -/
def addMissing (list : List CellId) (ids : List CellId) : List CellId :=
  ids.foldl (fun list id => if id ∈ list then list else list ++ [id]) list

/-- Routes what a cell emits to more cells, all of which have to be registered. -/
def subscribe (w : World β) (mesh : MeshId) (emitter : CellId) (ids : List CellId) :
    Except MeshError Unit × World β :=
  match (emitter :: ids).find? fun id => !w.hasCell mesh id with
  | some missing => (.error (.cellNotFound missing), w)
  | none => (.ok (), w.modifyMesh mesh fun m =>
      { m with routes := Dict.insert m.routes emitter (addMissing (m.subscribers emitter) ids) })

/-- Takes cells off the subscribers of a registered cell. -/
def unsubscribe (w : World β) (mesh : MeshId) (emitter : CellId) (ids : List CellId) :
    Except MeshError Unit × World β :=
  if w.hasCell mesh emitter then
    (.ok (), w.modifyMesh mesh fun m =>
      { m with routes :=
          Dict.insert m.routes emitter ((m.subscribers emitter).filter (· ∉ ids)) })
  else (.error (.cellNotFound emitter), w)

end EventMesh.World
