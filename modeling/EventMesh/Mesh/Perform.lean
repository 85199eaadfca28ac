import EventMesh.Mesh.Lifecycle

/-!
Performing scripts: what each request of a behavior does to the world and is answered with. A cell
of a mesh routes emissions, a bench records them. Performing a script ends because every answer
leads to a smaller script.
-/

namespace EventMesh.World

open Time

variable {β : Type}

/-! ### Emission -/

/-- The result of routing as a behavior sees it, in a mesh that somebody still holds. -/
def throughMesh (w : World β) (mesh : MeshId)
    (routed : World β → Except MeshError Unit × World β) : Except BehaviorError Unit × World β :=
  if w.isAlive mesh then
    let (r, w) := routed w
    (r.mapError fun err => .emitFailed err.message, w)
  else (.error (.emitFailed "environment dropped"), w)

/-- Records an emission on a bench, unless the bench rejects emissions. -/
def record (w : World β) (bench : BenchId) (f : Bench β → Bench β) :
    Except BehaviorError Unit × World β :=
  if (w.benches.get? bench).any (·.rejecting) then
    (.error (.emitFailed "recording cell rejects emits"), w)
  else (.ok (), { w with benches := w.benches.modify bench f })

/-- An event goes to all subscribers of a cell. -/
def emit (w : World β) (outlet : Outlet) (e : Event) : Except BehaviorError Unit × World β :=
  match outlet with
  | .cell mesh _ id _ => w.throughMesh mesh (·.publish mesh id e)
  | .bench bench _ => w.record bench fun b => { b with emitted := b.emitted ++ [e] }

/-- An event goes to one cell. -/
def emitTo (w : World β) (outlet : Outlet) (target : CellId) (e : Event) :
    Except BehaviorError Unit × World β :=
  match outlet with
  | .cell mesh _ _ _ => w.throughMesh mesh (·.deliver mesh target e)
  | .bench bench _ => w.record bench fun b => { b with sent := b.sent ++ [(target, e)] }

/-- An event is to come back to the cell after a delay. -/
def emitAfter (w : World β) (outlet : Outlet) (delay : Duration) (e : Event) :
    ReminderId × World β :=
  let (reminder, w) := w.addReminder
  match outlet with
  | .cell _ key _ _ =>
    let (t, w) := w.spawn (.remind key reminder delay e)
    (reminder, w.attach reminder t)
  | .bench bench _ =>
    (reminder, { w with benches := w.benches.modify bench fun b =>
      { b with scheduled := b.scheduled ++ [⟨delay, e, reminder⟩] } })

/-! ### Scripts -/

/-- Performs a script to its end. -/
def perform : Script β → World β → β × Outcome × World β
  | .finish next outcome, w => (next, outcome, w)
  | .survey k, w => perform (k w.survey) w
  | .build values k, w =>
    let (p, w) := w.make (Serials.makePayload values)
    perform (k p) w
  | .create topic values scene k, w =>
    let (e, w) := w.make (Event.make topic values scene w.clock.wall)
    perform (k e) w
  | .emit outlet e k, w =>
    let (r, w) := w.emit outlet e
    perform (k r) w
  | .emitTo outlet target e k, w =>
    let (r, w) := w.emitTo outlet target e
    perform (k r) w
  | .emitAfter outlet delay e k, w =>
    let (reminder, w) := w.emitAfter outlet delay e
    perform (k reminder) w
  | .cancelReminder reminder k, w => perform k (w.cancelReminder reminder)
  | .answer waiter p k, w =>
    let (won, w) := w.answer waiter p
    perform (k won) w
  | .store scene key p k, w =>
    let (r, w) := w.store scene key p
    perform (k r) w
  | .start mesh id seed init k, w =>
    let (r, w) := w.startWith mesh id seed fun outlet w => perform (init outlet) w
    perform (k r) w
  | .stopMesh mesh k, w => perform k (w.beginShutdown mesh).2

/-- Starts a cell in a mesh. -/
def start [Behavior β] (w : World β) (mesh : MeshId) (id : CellId) (b : β) :
    Except MeshError Unit × World β :=
  w.startWith mesh id b fun outlet w => perform (Behavior.init b outlet) w

end EventMesh.World
