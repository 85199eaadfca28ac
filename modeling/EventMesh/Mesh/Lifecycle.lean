import EventMesh.Mesh.Routing

/-!
Lifecycle: meshes are opened, shut down and released; cells are started under a name that is free
and stopped by closing their queue. A start makes the first call of the behavior in between, which
may itself change the mesh, and looks at the mesh again before it lets the cell in.
-/

namespace EventMesh.World

open Time

variable {β : Type}

/-! ### Meshes -/

/-- Opens a mesh with one holder. -/
def openMesh (w : World β) (name : String) (requestTimeout : Duration) : MeshId × World β :=
  (w.meshes.next, { w with meshes := w.meshes.add { name, requestTimeout } })

/-- Closes the queue of an incarnation, which then handles what is in it. -/
def drain (w : World β) (key : CellKey) : World β :=
  (w.modifyCell key (·.close)).enlist (.cell key)

/-- Takes all cells and routes out of a mesh. -/
def vacate (w : World β) (mesh : MeshId) : World β :=
  match w.meshes.get? mesh with
  | none => w
  | some m =>
    let w := w.modifyMesh mesh fun m => { m with registry := [], routes := [] }
    (m.registry.map (·.2)).foldl drain w

/-- Begins a shutdown: the mesh takes nothing new from now on and its cells drain. The incarnations
to wait for are handed over to this shutdown. -/
def beginShutdown (w : World β) (mesh : MeshId) : List CellKey × World β :=
  let loops := ((w.meshes.get? mesh).map (·.loops)).getD []
  let w := w.modifyMesh mesh fun m => { m with stopping := true, loops := [] }
  (loops, w.vacate mesh)

/-- One holder lets go of a mesh; with the last one the mesh is gone and its cells drain. -/
def release (w : World β) (mesh : MeshId) : World β :=
  let w := w.modifyMesh mesh fun m => { m with holders := m.holders - 1 }
  if (w.meshes.get? mesh).any (!·.isAlive) then w.vacate mesh else w

/-! ### Cells -/

/-- Why a name is not free for a start, if it is not. -/
def refusal? (w : World β) (mesh : MeshId) (id : CellId) : Option MeshError :=
  match w.ifOpen mesh fun m => .ok (Dict.contains m.registry id) with
  | .error err => some err
  | .ok taken => if taken then some (.duplicateCell id) else none

/-- Makes a new incarnation, of a generation of its own. -/
def conceive (w : World β) (mesh : MeshId) (id : CellId) (seed : β) : CellKey × Nat × World β :=
  let generation := ((w.meshes.get? mesh).map (·.nextGeneration)).getD 0
  let key := w.cells.next
  let w := w.modifyMesh mesh fun m => { m with nextGeneration := m.nextGeneration + 1 }
  (key, generation, { w with cells := w.cells.add { mesh, id, generation, resident := seed } })

/-- Turns an incarnation away. -/
def refuse (w : World β) (key : CellKey) (err : MeshError) : Except MeshError Unit × World β :=
  (.error err, w.modifyCell key fun c => { c with phase := .refused })

/-- Registers an incarnation and starts its loop; loops that are over are forgotten. -/
def register (w : World β) (mesh : MeshId) (id : CellId) (key : CellKey) : World β :=
  let w := w.modifyCell key fun c => { c with phase := .running }
  let w := w.modifyMesh mesh fun m =>
    { m with
      registry := Dict.insert m.registry id key
      loops := m.loops.filter (!w.isOver ·) ++ [key] }
  w.enlist (.cell key)

/-- Lets an incarnation in after its first call, if that succeeded and the name is still free. -/
def letIn (w : World β) (mesh : MeshId) (id : CellId) (key : CellKey) (resident : β)
    (outcome : Outcome) : Except MeshError Unit × World β :=
  let w := w.modifyCell key (·.after (.init outcome) resident)
  match outcome with
  | .failed err => w.refuse key (.behavior err)
  | .panicked p => w.refuse key (.behavior (.panicked p.text))
  | .done =>
    match w.refusal? mesh id with
    | some err => w.refuse key err
    | none => (.ok (), w.register mesh id key)

/-- Starts a cell; `firstCall` makes the first call of its behavior. -/
def startWith (w : World β) (mesh : MeshId) (id : CellId) (seed : β)
    (firstCall : Outlet → World β → β × Outcome × World β) : Except MeshError Unit × World β :=
  match w.refusal? mesh id with
  | some err => (.error err, w)
  | none =>
    let (key, generation, w) := w.conceive mesh id seed
    let (resident, outcome, w) := firstCall (.cell mesh key id generation) w
    w.letIn mesh id key resident outcome

/-- Takes a cell out of its mesh and closes its queue. -/
def stopCell (w : World β) (mesh : MeshId) (id : CellId) : Except MeshError Unit × World β :=
  match (w.meshes.get? mesh).bind fun m => Dict.get? m.registry id with
  | none => (.error (.cellNotFound id), w)
  | some key => (.ok (), (w.modifyMesh mesh (·.leave id)).drain key)

/-- Takes the name of an incarnation out of its mesh, if it is the one registered. -/
def deregister (w : World β) (key : CellKey) : World β :=
  match w.cells.get? key with
  | none => w
  | some c => w.modifyMesh c.mesh fun m =>
      if Dict.get? m.registry c.id = some key then m.leave c.id else m

end EventMesh.World
