import EventMesh.Behavior.Actor
import EventMesh.Proofs.Mesh.Draining
import EventMesh.Proofs.Mesh.Request

/-!
# Shutdown

What is left of a mesh once a shutdown of it has begun, by whomever and in the middle of whatever. The
mesh is `Closed`: it is stopping and nobody is registered in it, and no step changes that
(`Closed.steps`). So every attempt to send something into it or to start a cell in it is refused, and
what its cells had accepted by then is all that they ever have to handle (`Closed.windsUp`). Main
statement: `shutdown_is_final`.
-/

namespace EventMesh

/-- Why a start under way fails in a mesh that is shutting down: its first call failed, or it was in
vain. -/
def Outcome.declined : Outcome → MeshError
  | .done => .shuttingDown
  | .failed err => .behavior err
  | .panicked p => .behavior (.panicked p.text)

namespace World

open Function Time

variable {β : Type} {w w' : World β} {hand hand' : CellKey → Hand} {mesh : MeshId} {key : CellKey}
  {c : Cell β}

/-! ### Closed meshes -/

/-- The mesh is stopping, and nobody is registered in it. -/
def Closed (w : World β) (mesh : MeshId) : Prop :=
  ∃ m, w.meshes.get? mesh = some m ∧ m.stopping = true ∧ m.registry = []

theorem closed_beginShutdown {m : Mesh} (hm : w.meshes.get? mesh = some m) :
    (w.beginShutdown mesh).2.Closed mesh := by
  refine ⟨{ m with stopping := true, loops := [], registry := [], routes := [] }, ?_, rfl, rfl⟩
  show ((w.modifyMesh mesh fun m => { m with stopping := true, loops := [] }).vacate
    mesh).meshes.get? mesh = _
  rw [meshes_vacate, get?_modifyMesh, if_pos rfl, get?_modifyMesh, if_pos rfl, hm]
  rfl

/-- What a behavior is told whose cell sends something into a mesh that is shutting down, or that nobody
holds any more. -/
def sendFailure (w : World β) (mesh : MeshId) : BehaviorError :=
  .emitFailed (if w.isAlive mesh then MeshError.shuttingDown.message else "environment dropped")

namespace Closed

/-- **A closed mesh stays closed.** -/
theorem step (closed : w.Closed mesh) (s : Step w hand w' hand') : w'.Closed mesh := by
  obtain ⟨m, hm, stopping, empty⟩ := closed
  obtain ⟨m', hm', befell⟩ := upkept_step s mesh m hm
  exact ⟨m', hm', befell.stopping stopping, befell.registry_eq_nil stopping empty⟩

theorem steps (closed : w.Closed mesh) (h : Steps w hand w' hand') : w'.Closed mesh :=
  h.preserves (P := fun w _ => w.Closed mesh) (fun s before => before.step s) closed

/-- **Every mesh that is stopping is closed**, in whatever way it came to stop. -/
theorem of_stopping {wall : Wall} (h : Steps (startingAt wall) atRest w hand) {m : Mesh}
    (hm : w.meshes.get? mesh = some m) (stopping : m.stopping = true) : w.Closed mesh := by
  have emptied : ∀ mesh m, w.meshes.get? mesh = some m → m.stopping = true → m.registry = [] := by
    refine h.preserves
      (P := fun w _ => ∀ mesh m, w.meshes.get? mesh = some m → m.stopping = true → m.registry = [])
      (fun s before mesh m' hm' begun => ?_) fun mesh m hm => ?_
    · rcases befell_or_opened s hm' with ⟨m, hm, befell⟩ | ⟨name, requestTimeout, rfl⟩
      · exact befell.emptied (before mesh m hm) begun
      · cases begun
    · rw [startingAt, Table.get?_empty] at hm
      cases hm
  exact ⟨m, hm, stopping, emptied mesh m hm stopping⟩

theorem of_meshes (closed : w.Closed mesh) (same : w'.meshes = w.meshes) : w'.Closed mesh := by
  unfold Closed
  rwa [same]

theorem lookUp (closed : w.Closed mesh) (id : CellId) : w.lookUp mesh id = none := by
  obtain ⟨m, hm, -, empty⟩ := closed
  rw [lookUp_eq hm, empty]
  rfl

theorem hasCell (closed : w.Closed mesh) (id : CellId) : w.hasCell mesh id = false := by
  rw [hasCell_eq, closed.lookUp]
  rfl

/-- Nobody runs in it. -/
theorem not_running (closed : w.Closed mesh) (orderly : w.Orderly)
    (hc : w.cells.get? key = some c) (of_mesh : c.mesh = mesh) : c.phase ≠ .running := by
  intro running
  have named := orderly.listed key c hc running
  rw [of_mesh, closed.lookUp] at named
  cases named

/-! ### What is refused -/

theorem ifOpen {α : Type} (closed : w.Closed mesh) (act : Mesh → Except MeshError α) :
    w.ifOpen mesh act = .error .shuttingDown := by
  obtain ⟨m, hm, stopping, -⟩ := closed
  rw [World.ifOpen, hm]
  exact if_pos stopping

theorem refusal? (closed : w.Closed mesh) (id : CellId) :
    w.refusal? mesh id = some .shuttingDown := by
  rw [World.refusal?, closed.ifOpen]

theorem route (closed : w.Closed mesh) (target : CellId) :
    w.route mesh target = .error .shuttingDown :=
  closed.ifOpen _

theorem deliver (closed : w.Closed mesh) (target : CellId) (e : Event) :
    w.deliver mesh target e = (.error .shuttingDown, w) := by
  rw [World.deliver, closed.route]

theorem publish (closed : w.Closed mesh) (emitter : CellId) (e : Event) :
    w.publish mesh emitter e = (.error .shuttingDown, w) := by
  rw [World.publish, closed.ifOpen]

theorem emit (closed : w.Closed mesh) (key : CellKey) (id : CellId) (generation : Nat) (e : Event) :
    w.emit (.cell mesh key id generation) e = (.error (w.sendFailure mesh), w) := by
  rw [World.emit, World.throughMesh, closed.publish, sendFailure]
  split <;> rfl

theorem emitTo (closed : w.Closed mesh) (key : CellKey) (id : CellId) (generation : Nat)
    (target : CellId) (e : Event) :
    w.emitTo (.cell mesh key id generation) target e = (.error (w.sendFailure mesh), w) := by
  rw [World.emitTo, World.throughMesh, closed.deliver, sendFailure]
  split <;> rfl

/-- No reminder gets through. -/
theorem deliverTo (closed : w.Closed mesh) (hc : w.cells.get? key = some c)
    (of_mesh : c.mesh = mesh) (e : Event) : w.deliverTo key e = w := by
  rcases deliverTo_cases w key e with same | ⟨c', hc', -, leads, -⟩
  · exact same
  · cases hc.symm.trans hc'
    rw [of_mesh, closed.route] at leads
    cases leads

theorem letIn (closed : w.Closed mesh) (id : CellId) (key : CellKey) (resident : β)
    (outcome : Outcome) : (w.letIn mesh id key resident outcome).1 = .error outcome.declined := by
  cases outcome with
  | done =>
    have still : (w.modifyCell key (·.after (.init .done) resident)).Closed mesh :=
      closed.of_meshes rfl
    rw [World.letIn, still.refusal?]
    rfl
  | failed err => rfl
  | panicked p => rfl

theorem startWith (closed : w.Closed mesh) (id : CellId) (seed : β)
    (firstCall : Outlet → World β → β × Outcome × World β) :
    w.startWith mesh id seed firstCall = (.error .shuttingDown, w) := by
  rw [World.startWith, closed.refusal?]

/-- A request is over after its first turn and puts nothing into any queue. -/
theorem request (closed : w.Closed mesh) {t : TaskId} {task : Task} {a : Ask}
    (at_ : w.tasks.get? t = some task) (asks : task.errand.ask? w.now = some a)
    (of_mesh : a.mesh = mesh) (fresh : task.progress = .fresh) (kept : task.doomed = false) :
    (w.stepTask t).report? t = some (task.errand.reportResponse (.error .shuttingDown)) ∧
      Silent w (w.stepTask t) := by
  have unsent : w.route a.mesh a.target = .error .shuttingDown := of_mesh ▸ closed.route a.target
  have ends := progress?_stepTask_ask at_ asks fresh kept
  rw [unsent] at ends
  refine ⟨report?_of_progress? ends, fun j => ?_⟩
  rw [acceptedBy_stepTask_ask at_ asks fresh kept, unsent, List.append_nil]

end Closed

/-! ### What is left to do -/

/-- How an incarnation comes to its end once nothing enters its queue any more. -/
structure WindsUp [Behavior β] (w : World β) (hand : CellKey → Hand) (key : CellKey) (c : Cell β) :
    Prop where
  closed : c.phase ≠ .running
  /-- It accepts nothing more, whatever happens. -/
  quiet : ∀ {w' : World β} {hand' : CellKey → Hand}, Steps w hand w' hand' →
    ∃ c', w'.cells.get? key = some c' ∧ c'.accepted = c.accepted
  /-- Until its loop is over, what it accepted was handled, is in hand or waits. -/
  kept : c.isOver = false → c.accepted = c.handled ++ (hand key).taken ++ c.queue
  /-- Its last call is made after all of that was handled, unless a recovery failed. -/
  last : hand key = .last ∨ (∃ outcome, Call.terminate outcome ∈ c.calls) → c.Recovered →
    c.handled = c.accepted
  /-- While it drains its turn is yet to come. -/
  ready : c.phase = .draining → .cell key ∈ w.ready
  /-- It drains in any run that gives it more turns than there are events in its queue. -/
  drains : hand = atRest → c.phase = .draining → ∀ moves : List (Move β),
    c.queue.length < moves.countP (·.isTurnOf key) →
      ∃ c', (w.run moves).cells.get? key = some c' ∧ c'.isOver = true ∧
        c'.accepted = c.accepted ∧ (c'.Recovered → c'.handled = c.accepted)

/-- Whose last call was made or is under way has ended. -/
theorem ended_of_last (protocol : Protocol c.phase (hand key) c.calls)
    (last : hand key = .last ∨ ∃ outcome, Call.terminate outcome ∈ c.calls) : c.phase = .ended := by
  rcases last with under_way | ⟨outcome, made⟩
  · rw [under_way] at protocol
    generalize c.phase = phase at protocol
    generalize c.calls = calls at protocol
    cases protocol with
    | emptied | gaveUp => rfl
  · exact (protocol.of_mem_terminate made).1

theorem Closed.accepted_steps {wall : Wall} (past : Steps (startingAt wall) atRest w hand)
    (closed : w.Closed mesh) (hc : w.cells.get? key = some c) (of_mesh : c.mesh = mesh)
    (h : Steps w hand w' hand') :
    ∃ c', w'.cells.get? key = some c' ∧ c'.accepted = c.accepted := by
  refine World.accepted_steps h hc fun earlier hc₁ => ?_
  obtain ⟨c₂, hc₂, older⟩ := ages_steps (past.each Cell.Coherent.invariant) earlier hc
  cases hc₁.symm.trans hc₂
  exact (closed.steps earlier).not_running (orderly_steps (past.trans earlier)) hc₁
    (older.mesh.trans of_mesh)

/-- Nobody is conceived in a closed mesh. -/
theorem Closed.exists_before {wall : Wall} (past : Steps (startingAt wall) atRest w hand)
    (closed : w.Closed mesh) (h : Steps w hand w' hand') {c' : Cell β}
    (hc' : w'.cells.get? key = some c') (of_mesh : c'.mesh = mesh) :
    ∃ c, w.cells.get? key = some c ∧ c.mesh = mesh := by
  induction h generalizing c' with
  | refl => exact ⟨c', hc', of_mesh⟩
  | tail before s ih =>
    have coherent := (past.trans before).each Cell.Coherent.invariant
    rcases aged_or_born coherent s hc' with ⟨c₁, hc₁, older⟩ | ⟨-, free⟩
    · exact ih hc₁ (older.mesh.symm.trans of_mesh)
    · rw [of_mesh, (closed.steps before).refusal?] at free
      cases free

variable [Behavior β]

/-- **The incarnations of a closed mesh wind up.** -/
theorem Closed.windsUp {wall : Wall} (past : Steps (startingAt wall) atRest w hand)
    (closed : w.Closed mesh) (hc : w.cells.get? key = some c) (of_mesh : c.mesh = mesh) :
    w.WindsUp hand key c := by
  have books := past.each Cell.Balanced.invariant
  have protocol := (past.each Protocol.invariant).cells key c hc
  constructor
  case closed => exact closed.not_running (orderly_steps past) hc of_mesh
  case quiet => exact fun later => closed.accepted_steps past hc of_mesh later
  case kept => exact (books.cells key c hc).all_kept
  case last =>
    intro last recovered
    have ended := ended_of_last protocol last
    exact (books.cells key c hc).handled_eq (Cell.isOver_iff.mpr (Or.inl ended)) recovered
  case ready => exact fun draining => prompt_steps past key c hc (Or.inl draining)
  case drains =>
    rintro rfl draining moves turns
    have later := steps_run w moves
    obtain ⟨c', hc', finished⟩ :=
      drains_run (past.each Cell.Coherent.invariant) books hc draining turns
    obtain ⟨c'', hc'', same⟩ := closed.accepted_steps past hc of_mesh later
    cases hc'.symm.trans hc''
    have balanced := ((past.trans later).each Cell.Balanced.invariant).cells key c' hc'
    exact ⟨c', hc', finished, same, fun recovered => (balanced.handled_eq finished recovered).trans same⟩

/-! ### From the beginning of a shutdown on -/

omit [Behavior β] in
/-- The first turn of a task that is there to shut a mesh down. -/
theorem stepTask_shutdown {t : TaskId} {task : Task} (at_ : w.tasks.get? t = some task)
    (errand : task.errand = .shutdown mesh) (fresh : task.progress = .fresh)
    (kept : task.doomed = false) : w.stepTask t =
      ((w.dismiss (.task t)).beginShutdown mesh).2.continueAs t task
        (.joining ((w.dismiss (.task t)).beginShutdown mesh).1) := by
  rw [stepTask_fresh at_ kept fresh, begin, errand]

/-- How a shutdown begins: in the middle of anything, or with the first turn of a task that is there to
shut the mesh down. -/
inductive ShutsDown (w : World β) (mesh : MeshId) : World β → Prop
  | called : ShutsDown w mesh (w.beginShutdown mesh).2
  | turn {t : TaskId} {task : Task} (at_ : w.tasks.get? t = some task)
      (errand : task.errand = .shutdown mesh) (fresh : task.progress = .fresh)
      (kept : task.doomed = false) : ShutsDown w mesh (w.stepTask t)

omit [Behavior β] in
theorem ShutsDown.closed (begun : w.ShutsDown mesh w') {m : Mesh}
    (hm : w.meshes.get? mesh = some m) : w'.Closed mesh ∧ Course w w' := by
  cases begun with
  | called => exact ⟨closed_beginShutdown hm, .single (.beginShutdown mesh)⟩
  | @turn t task at_ errand fresh kept =>
    have first := stepTask_shutdown at_ errand fresh kept
    set begun := ((w.dismiss (.task t)).beginShutdown mesh)
    have goes_on : Course begun.2 (begun.2.continueAs t task (.joining begun.1)) :=
      polls_course.continueAs begun.2 t (fun _ => trivial) (.joining begun.1)
    have closed : begun.2.Closed mesh := closed_beginShutdown (w := w.dismiss (.task t)) hm
    have later : Steps begun.2 atRest (begun.2.continueAs t task (.joining begun.1)) atRest :=
      Steps.refl.course goes_on
    rw [first]
    exact ⟨closed.steps later, first ▸ course_stepTask w t⟩

/-- What holds of a mesh from the moment on at which a shutdown of it has begun. -/
structure ShutForGood (w : World β) (hand : CellKey → Hand) (mesh : MeshId) : Prop where
  /-- Nobody can send an event to a cell. -/
  emit : ∀ target e, w.deliver mesh target e = (.error .shuttingDown, w)
  emitNew : ∀ target topic values,
    let made := w.make (Event.make topic values none w.clock.wall)
    made.2.deliver mesh target made.1 = (.error .shuttingDown, made.2)
  /-- A request that has its first turn is over and puts nothing into any queue. -/
  request : ∀ t task a, w.tasks.get? t = some task → task.errand.ask? w.now = some a →
    a.mesh = mesh → task.progress = .fresh → task.doomed = false →
      (w.stepTask t).report? t = some (task.errand.reportResponse (.error .shuttingDown)) ∧
        Silent w (w.stepTask t)
  /-- Nor can a cell of the mesh. -/
  cellEmit : ∀ key id generation e,
    w.emit (.cell mesh key id generation) e = (.error (w.sendFailure mesh), w)
  cellEmitTo : ∀ key id generation target e,
    w.emitTo (.cell mesh key id generation) target e = (.error (w.sendFailure mesh), w)
  reminder : ∀ key c e, w.cells.get? key = some c → c.mesh = mesh → w.deliverTo key e = w
  start : ∀ id seed (firstCall : Outlet → World β → β × Outcome × World β),
    w.startWith mesh id seed firstCall = (.error .shuttingDown, w)
  /-- A start whose first call has just been made, whenever that began. -/
  halfway : ∀ (w₀ : World β) id seed (firstCall : Outlet → World β → β × Outcome × World β) resident
    outcome, w₀.refusal? mesh id = none →
      firstCall (.cell mesh w₀.cells.next id (w₀.conceive mesh id seed).2.1)
          (w₀.conceive mesh id seed).2.2 = (resident, outcome, w) →
        (w₀.startWith mesh id seed firstCall).1 = .error outcome.declined
  unlisted : ∀ id, w.hasCell mesh id = false ∧ w.subscribers mesh id = []
  /-- There will never be another incarnation, and those that are there wind up. -/
  nobody : ∀ {w' : World β} {hand' : CellKey → Hand}, Steps w hand w' hand' → ∀ key c',
    w'.cells.get? key = some c' → c'.mesh = mesh → ∃ c, w.cells.get? key = some c ∧ c.mesh = mesh
  incarnations : ∀ key c, w.cells.get? key = some c → c.mesh = mesh → w.WindsUp hand key c

/-- **Shutdown is final.** Whatever steps of loops and deeds (runs among them: `steps_run`) came before a
shutdown of a mesh has begun and whatever came after: nothing can be sent into the mesh and nobody
started in it, nobody is listed or subscribed, and what its cells accepted before is what they handle
until their last call, unless a recovery fails. -/
theorem shutdown_is_final {wall : Wall} {w₁ w₂ : World β} {hand₁ : CellKey → Hand} {m : Mesh}
    (h₁ : Steps (startingAt wall) atRest w₁ hand₁) (hm : w₁.meshes.get? mesh = some m)
    (begun : w₁.ShutsDown mesh w₂) (h : Steps w₂ hand₁ w hand) : w.ShutForGood hand mesh := by
  obtain ⟨closing, course⟩ := begun.closed hm
  have past : Steps (startingAt wall) atRest w hand := (h₁.course course).trans h
  have closed : w.Closed mesh := closing.steps h
  constructor
  case emit => exact closed.deliver
  case emitNew =>
    intro target topic values made
    have still : made.2.Closed mesh := closed.of_meshes rfl
    exact still.deliver target made.1
  case request => exact fun t task a at_ asks of_mesh => closed.request at_ asks of_mesh
  case cellEmit => exact closed.emit
  case cellEmitTo => exact closed.emitTo
  case reminder => exact fun key c e hc of_mesh => closed.deliverTo hc of_mesh e
  case start => exact closed.startWith
  case halfway =>
    intro w₀ id seed firstCall resident outcome free called
    rw [startWith, free]
    dsimp only
    rw [show (w₀.conceive mesh id seed).1 = w₀.cells.next from rfl, called]
    exact closed.letIn id _ resident outcome
  case unlisted =>
    exact fun id => ⟨closed.hasCell id, ((orderly_steps past).unrouted (closed.lookUp id)).2⟩
  case nobody => exact fun later key c' hc' of_mesh => closed.exists_before past later hc' of_mesh
  case incarnations => exact fun key c hc of_mesh => closed.windsUp past hc of_mesh

/-- A cell with two events in its queue. -/
def busyMesh : World (Resident Actor) :=
  (startingAt ⟨0, 0⟩).run [
    .openMesh "mesh" (.ofMillis 1000),
    .start ⟨0⟩ ⟨"a"⟩ (.custom { rules := [] }),
    .emitNew ⟨0⟩ ⟨"a"⟩ "x" .empty,
    .emitNew ⟨0⟩ ⟨"a"⟩ "y" .empty]

/-- An actor that starts to shut its mesh down in its first call. -/
def closer : Resident Actor := .custom { rules := [], opening := .stopMesh }

/-- The mesh is being shut down, and the first call of another cell is what did it. -/
def closingMesh : World (Resident Actor) :=
  ((busyMesh.conceive ⟨0⟩ ⟨"b"⟩ closer).2.2.beginShutdown ⟨0⟩).2

/-- The start of the other cell fails, and the first one still handles both events. -/
theorem shutdown_is_final_closingMesh : ∃ c, closingMesh.cells.get? ⟨0⟩ = some c ∧
    c.accepted.length = 2 ∧ c.handled = [] ∧
    (busyMesh.start ⟨0⟩ ⟨"b"⟩ closer).1 = .error .shuttingDown ∧
    ∃ c', (closingMesh.run (.replicate 3 (.turn (.cell ⟨0⟩)))).cells.get? ⟨0⟩ = some c' ∧
      c'.isOver = true ∧ c'.accepted = c.accepted := by
  have starting : Steps (startingAt ⟨0, 0⟩) atRest (busyMesh.conceive ⟨0⟩ ⟨"b"⟩ closer).2.2 atRest :=
    (steps_run _ _).course (.single (.conceive closer rfl))
  have shut : closingMesh.ShutForGood atRest ⟨0⟩ :=
    shutdown_is_final starting rfl .called .refl
  have known : ∃ c, closingMesh.cells.get? ⟨0⟩ = some c ∧ c.accepted.length = 2 ∧ c.handled = [] ∧
      c.mesh = ⟨0⟩ ∧ c.phase = .draining ∧ c.queue.length = 2 := ⟨_, rfl, rfl, rfl, rfl, rfl, rfl⟩
  obtain ⟨c, hc, two, unhandled, of_mesh, draining, waits⟩ := known
  obtain ⟨c', hc', finished, same, -⟩ := (shut.incarnations ⟨0⟩ c hc of_mesh).drains rfl draining
    (.replicate 3 (.turn (.cell ⟨0⟩))) (by rw [waits]; decide)
  exact ⟨c, hc, two, unhandled, shut.halfway busyMesh ⟨"b"⟩ closer _ _ .done rfl rfl,
    c', hc', finished, same⟩

end World

end EventMesh
