import EventMesh.Behavior.Actor
import EventMesh.Proofs.Mesh.Request
import EventMesh.Proofs.Mesh.Settled
import EventMesh.Proofs.Mesh.Start

/-!
# Refused operations

An operation on a mesh that returns an error has changed nothing that a mesh is there for: who is
registered under which name, the routes, whether the mesh is stopping, and all that there is to any
incarnation, its queue included. A start may fail after the first call of its behavior, which can do
whatever a behavior can; then everything but the incarnation that is turned away is as that call
left it. A request that is refused has changed nothing when it reports so, and then lets go of the
mesh.

Main statements: what is refused at once leaves the world untouched (`Refused.untouched`), what a
start that fails leaves (`leaves_startWith`), how a request is refused (`declined_stepTask`);
`all_or_nothing` puts them together.
-/

namespace EventMesh

/-- The same registered cells, the same routes, and stopping both or neither. -/
structure Mesh.Agrees (m m' : Mesh) : Prop where
  registry : m'.registry = m.registry
  routes : m'.routes = m.routes
  stopping : m'.stopping = m.stopping

/-- Whether an error says that an event went to no cell. -/
inductive MeshError.Unrouted : MeshError → Prop
  | cellNotFound (id : CellId) : Unrouted (.cellNotFound id)
  | shuttingDown : Unrouted .shuttingDown

namespace World

open Time

variable {β : Type}

/-- Every mesh has the same cells and routes and goes on or stops as before, and every incarnation is
as it was, with its queue. -/
structure Untouched (w w' : World β) : Prop where
  meshes : ∀ {mesh : MeshId} {m : Mesh}, w.meshes.get? mesh = some m →
    ∃ m', w'.meshes.get? mesh = some m' ∧ m.Agrees m'
  cells : ∀ {key c}, w.cells.get? key = some c → w'.cells.get? key = some c

namespace Untouched

variable {w w₁ w₂ : World β}

theorem of_eq (hm : w₁.meshes = w.meshes) (hc : w₁.cells = w.cells) : Untouched w w₁ :=
  ⟨fun {_ m} h => ⟨m, hm ▸ h, rfl, rfl, rfl⟩, fun h => hc ▸ h⟩

theorem of_same (h : w₁ = w) : Untouched w w₁ := h ▸ of_eq rfl rfl

theorem modifyMesh (w : World β) (mesh : MeshId) {f : Mesh → Mesh}
    (h : ∀ m : Mesh, m.Agrees (f m)) :
    Untouched w (w.modifyMesh mesh f) := by
  refine ⟨fun {j m} hm => ?_, id⟩
  rw [get?_modifyMesh, hm]
  split
  · exact ⟨f m, rfl, h m⟩
  · exact ⟨m, rfl, rfl, rfl, rfl⟩

theorem trans (h : Untouched w w₁) (h' : Untouched w₁ w₂) : Untouched w w₂ := by
  refine ⟨fun hm => ?_, fun hc => h'.cells (h.cells hc)⟩
  obtain ⟨m₁, hm₁, agrees₁⟩ := h.meshes hm
  obtain ⟨m₂, hm₂, agrees₂⟩ := h'.meshes hm₁
  exact ⟨m₂, hm₂, agrees₂.registry.trans agrees₁.registry, agrees₂.routes.trans agrees₁.routes,
    agrees₂.stopping.trans agrees₁.stopping⟩

end Untouched

/-! ### Operations that are refused at once -/

/-- An operation was refused, with the world that it left. -/
inductive Refused (w : World β) : World β → Prop
  | stopCell {mesh : MeshId} {id : CellId} {err : MeshError}
      (h : (w.stopCell mesh id).1 = .error err) : Refused w (w.stopCell mesh id).2
  | subscribe {mesh : MeshId} {emitter : CellId} {ids : List CellId} {err : MeshError}
      (h : (w.subscribe mesh emitter ids).1 = .error err) : Refused w (w.subscribe mesh emitter ids).2
  | unsubscribe {mesh : MeshId} {emitter : CellId} {ids : List CellId} {err : MeshError}
      (h : (w.unsubscribe mesh emitter ids).1 = .error err) :
      Refused w (w.unsubscribe mesh emitter ids).2
  | deliver {mesh : MeshId} {target : CellId} {e : Event} {err : MeshError}
      (h : (w.deliver mesh target e).1 = .error err) : Refused w (w.deliver mesh target e).2
  /-- The event is made for the delivery. -/
  | deliverNew {mesh : MeshId} {target : CellId} {topic : String} {values : Source} {made : World β}
      {e : Event} {err : MeshError}
      (making : w.make (Event.make topic values none w.clock.wall) = (e, made))
      (h : (made.deliver mesh target e).1 = .error err) : Refused w (made.deliver mesh target e).2
  /-- A cell emits to its subscribers. -/
  | emit {outlet : Outlet} {e : Event} {err : BehaviorError}
      (h : (w.emit outlet e).1 = .error err) : Refused w (w.emit outlet e).2
  /-- A cell emits to one cell. -/
  | emitTo {outlet : Outlet} {target : CellId} {e : Event} {err : BehaviorError}
      (h : (w.emitTo outlet target e).1 = .error err) : Refused w (w.emitTo outlet target e).2

theorem deliver_error {w : World β} {mesh : MeshId} {target : CellId} {e : Event} {err : MeshError}
    (h : (w.deliver mesh target e).1 = .error err) : (w.deliver mesh target e).2 = w := by
  rcases deliver_cases w mesh target e with ⟨_, -, refused⟩ | ⟨_, -, sent⟩
  · rw [refused]
  · rw [sent] at h
    cases h

theorem publish_error {w : World β} {mesh : MeshId} {emitter : CellId} {e : Event} {err : MeshError}
    (h : (w.publish mesh emitter e).1 = .error err) : (w.publish mesh emitter e).2 = w := by
  unfold publish at h ⊢
  split
  · rfl
  · rename_i targets opened
    rw [opened] at h
    cases h

/-- What fails on its way through a mesh fails because the mesh is gone or because it is refused
there. -/
theorem throughMesh_error {w : World β} {mesh : MeshId}
    {routed : World β → Except MeshError Unit × World β} {err : BehaviorError}
    (h : (w.throughMesh mesh routed).1 = .error err)
    (same : ∀ {err}, (routed w).1 = .error err → (routed w).2 = w) :
    (w.throughMesh mesh routed).2 = w := by
  unfold throughMesh at h ⊢
  split
  · rename_i alive
    rw [if_pos alive] at h
    cases result : (routed w).1 with
    | error err => exact same result
    | ok _ =>
      simp only [result] at h
      cases h
  · rfl

theorem record_error {w : World β} {bench : BenchId} {f : Bench β → Bench β} {err : BehaviorError}
    (h : (w.record bench f).1 = .error err) : (w.record bench f).2 = w := by
  unfold record at h ⊢
  split
  · rfl
  · rename_i accepting
    rw [if_neg accepting] at h
    cases h

theorem emit_error {w : World β} {outlet : Outlet} {e : Event} {err : BehaviorError}
    (h : (w.emit outlet e).1 = .error err) : (w.emit outlet e).2 = w := by
  cases outlet with
  | cell mesh key id generation => exact throughMesh_error h publish_error
  | bench bench id => exact record_error h

theorem emitTo_error {w : World β} {outlet : Outlet} {target : CellId} {e : Event}
    {err : BehaviorError} (h : (w.emitTo outlet target e).1 = .error err) :
    (w.emitTo outlet target e).2 = w := by
  cases outlet with
  | cell mesh key id generation => exact throughMesh_error h deliver_error
  | bench bench id => exact record_error h

theorem stopCell_error {w : World β} {mesh : MeshId} {id : CellId} {err : MeshError}
    (h : (w.stopCell mesh id).1 = .error err) : (w.stopCell mesh id).2 = w := by
  unfold stopCell at h ⊢
  split
  · rfl
  · rename_i key registered
    rw [registered] at h
    cases h

theorem subscribe_error {w : World β} {mesh : MeshId} {emitter : CellId} {ids : List CellId}
    {err : MeshError} (h : (w.subscribe mesh emitter ids).1 = .error err) :
    (w.subscribe mesh emitter ids).2 = w := by
  unfold subscribe at h ⊢
  split
  · rfl
  · rename_i all
    rw [all] at h
    cases h

theorem unsubscribe_error {w : World β} {mesh : MeshId} {emitter : CellId} {ids : List CellId}
    {err : MeshError} (h : (w.unsubscribe mesh emitter ids).1 = .error err) :
    (w.unsubscribe mesh emitter ids).2 = w := by
  unfold unsubscribe at h ⊢
  split
  · rename_i registered
    rw [if_pos registered] at h
    cases h
  · rfl

/-- **What is refused leaves the world untouched**: neither part of a list of names is dealt with
nor any of the subscribers reached. -/
theorem Refused.untouched {w w' : World β} (h : Refused w w') : Untouched w w' := by
  cases h with
  | stopCell h => exact .of_same (stopCell_error h)
  | subscribe h => exact .of_same (subscribe_error h)
  | unsubscribe h => exact .of_same (unsubscribe_error h)
  | deliver h => exact .of_same (deliver_error h)
  | @deliverNew mesh target topic values made e err making h =>
    have beside : Untouched w made := by
      cases making
      exact .of_eq rfl rfl
    exact beside.trans (.of_same (deliver_error h))
  | emit h => exact .of_same (emit_error h)
  | emitTo h => exact .of_same (emitTo_error h)

/-! ### Starts that fail -/

/-- What a start leaves that fails: the world as it was if it is declined at once, and otherwise all
that the first call did, with the incarnation turned away. -/
inductive Leaves (w : World β) (mesh : MeshId) (id : CellId) (init : Outlet → Script β) :
    World β → Prop
  | declined : Leaves w mesh id init w
  | turnedAway {made left w' : World β} {generation : Nat} {resident : β} {outcome : Outcome}
      (making : Untouched w made)
      (calling : perform (init (.cell mesh w.cells.next id generation)) made =
        (resident, outcome, left))
      (meshes : w'.meshes = left.meshes)
      (others : ∀ {key}, key ≠ w.cells.next → w'.cells.get? key = left.cells.get? key)
      (refused : w'.cells.get? w.cells.next =
        some { mesh, id, generation, resident, phase := .refused, calls := [.init outcome] })
      (unlisted : ∀ mesh id, w'.lookUp mesh id ≠ some w.cells.next) : Leaves w mesh id init w'

theorem untouched_conceive (w : World β) (mesh : MeshId) (id : CellId) (seed : β) :
    Untouched w (w.conceive mesh id seed).2.2 := by
  have counting : Untouched w (w.modifyMesh mesh
      fun m => { m with nextGeneration := m.nextGeneration + 1 }) :=
    .modifyMesh w mesh fun m => ⟨rfl, rfl, rfl⟩
  refine counting.trans ⟨fun {_ m} hm => ⟨m, hm, rfl, rfl, rfl⟩, fun {key c} hc => ?_⟩
  have old : key ≠ w.cells.next := by
    rintro rfl
    cases hc.symm.trans (Table.get?_next _)
  simp only [conceive, Table.get?_add]
  exact (if_neg old).trans hc

/-- An incarnation below the floor that is at its first call takes no part in any deed. -/
theorem Deed.starting {floor : Nat} {w w' : World β} (d : Deed floor w w') {key : CellKey}
    {c : Cell β} (young : key.index < floor) (hc : w.cells.get? key = some c)
    (hp : c.phase = .starting) : w'.cells.get? key = some c := by
  rcases d.moved with ⟨mesh, target, taker, e, leads, rfl⟩ | moved
  · have other : taker ≠ key := by
      rintro rfl
      obtain ⟨m, c', -, -, -, hc', running⟩ := route_ok leads
      cases hc.symm.trans hc'
      cases hp.symm.trans running
    rw [get?_accept, if_neg other, hc]
  · have at_key := moved key
    rw [hc] at at_key
    generalize w'.cells.get? key = c? at at_key
    cases at_key with
    | same => rfl
    | closed =>
      have unclosed : c.close = c := by simp [Cell.close, hp]
      rw [unclosed]
    | turnedAway floored => omega
    | letIn floored => omega

theorem Course.starting {w w₁ : World β} (h : Course w w₁) {key : CellKey} {c : Cell β}
    (hc : w.cells.get? key = some c) (hp : c.phase = .starting) : w₁.cells.get? key = some c := by
  have young := Table.index_lt_of_get? hc
  induction h with
  | refl => exact hc
  | tail _ d ih => exact d.starting young ih hp

/-- **What a start that fails leaves**, whatever its first call does: that call may start the name
itself or shut the mesh down. -/
theorem leaves_startWith {w : World β} (orderly : w.Orderly) (mesh : MeshId) (id : CellId) (seed : β)
    (init : Outlet → Script β) {err : MeshError}
    (h : (w.startWith mesh id seed fun outlet w => perform (init outlet) w).1 = .error err) :
    Leaves w mesh id init (w.startWith mesh id seed fun outlet w => perform (init outlet) w).2 := by
  unfold startWith at h ⊢
  cases free : w.refusal? mesh id with
  | some err => exact .declined
  | none =>
    simp only [free] at h
    dsimp only
    obtain ⟨generation, born⟩ : ∃ generation, (w.conceive mesh id seed).2.1 = generation := ⟨_, rfl⟩
    have making : (w.conceive mesh id seed).2.2.cells.get? w.cells.next =
        some { mesh, id, generation, resident := seed } := by
      simp [conceive, Table.get?_add, modifyMesh, ← born]
    have calling : Course (w.conceive mesh id seed).2.2
        (perform (init (.cell mesh w.cells.next id generation)) (w.conceive mesh id seed).2.2).2.2 :=
      course_perform _ _
    have conceived : Deed w.cells.size w (w.conceive mesh id seed).2.2 := .conceive seed free
    have orderly_made := orderly_deed conceived orderly
    rw [show (w.conceive mesh id seed).1 = w.cells.next from rfl, born] at h ⊢
    obtain ⟨⟨resident, outcome, left⟩, called⟩ :
        ∃ called, perform (init (.cell mesh w.cells.next id generation))
          (w.conceive mesh id seed).2.2 = called := ⟨_, rfl⟩
    rw [called] at calling h ⊢
    have at_ := calling.starting making rfl
    dsimp only at h at_ ⊢
    rw [letIn_error h]
    refine .turnedAway (untouched_conceive w mesh id seed) called rfl ?_ ?_ ?_
    · intro key other
      rw [get?_modifyCell, if_neg (Ne.symm other), get?_modifyCell, if_neg (Ne.symm other)]
    · rw [get?_modifyCell, if_pos rfl, get?_modifyCell, if_pos rfl, at_]
      rfl
    · intro j i listed
      obtain ⟨c, hc, -, -, running⟩ := (calling.preserves orderly_deed orderly_made).found j i _ listed
      cases hc.symm.trans at_
      rcases running with running | running <;> cases running

/-! ### Requests that are refused -/

theorem countsOf_error {reply : Payload} {err : MeshError} (h : Errand.countsOf reply = .error err) :
    ¬ err.Unrouted := by
  unfold Errand.countsOf at h
  generalize reply.entries = entries at h
  induction entries with
  | nil => cases h
  | cons entry entries ih =>
    obtain ⟨key, v⟩ := entry
    rw [List.mapM_cons] at h
    cases v with
    | int n =>
      simp only [bind, Except.bind] at h
      split at h
      · rename_i e failed
        cases h
        exact ih failed
      · cases h
    | _ =>
      cases h
      rintro ⟨⟩

/-- A call that waits for its reply never reports that its event went to no cell. -/
theorem reportWait_ne {errand : Errand} (calls : errand.Calls) {err : MeshError}
    (unrouted : err.Unrouted) (r : Except EventError Payload) :
    errand.reportWait r ≠ errand.reportResponse (.error err) := by
  rw [calls.reportWait]
  intro same
  cases errand with
  | request =>
    cases r with
    | error e =>
      cases same
      cases unrouted
    | ok p => cases same
  | tally =>
    cases r with
    | error e =>
      cases same
      cases unrouted
    | ok p =>
      injection same with same
      exact countsOf_error same unrouted
  | wait | waitFlag | watch | sleep | remind | shutdown => exact calls

theorem untouched_release {w : World β} {mesh : MeshId}
    (held : ∀ m, w.meshes.get? mesh = some m → 1 < m.holders) : Untouched w (w.release mesh) := by
  have fewer : Untouched w (w.modifyMesh mesh fun m => { m with holders := m.holders - 1 }) :=
    .modifyMesh w mesh fun m => ⟨rfl, rfl, rfl⟩
  unfold release
  dsimp only
  split
  · rename_i gone
    obtain ⟨m', hm', dead⟩ := (Option.any_eq_true ..).mp gone
    rw [get?_modifyMesh, if_pos rfl] at hm'
    obtain ⟨m, hm, rfl⟩ := Option.map_eq_some_iff.mp hm'
    have := held m hm
    simp [Mesh.isAlive] at dead
    omega
  · exact fewer

section Requests

variable {w : World β} {t : TaskId} {task : Task} {err : MeshError}

theorem report?_conclude (at_ : w.tasks.get? t = some task) (report : Report) :
    (w.conclude t report).report? t = some report :=
  report?_of_progress? (progress?_conclude at_ report)

/-- A call is refused in its first turn only. -/
theorem fresh_of_unrouted (at_ : w.tasks.get? t = some task) (calls : task.errand.Calls)
    (going : w.report? t = none) (unrouted : err.Unrouted)
    (failed : (w.stepTask t).report? t = some (task.errand.reportResponse (.error err))) :
    task.progress = .fresh ∧ task.doomed = false := by
  have live : task.isOver = false := by
    cases ended : task.isOver with
    | false => rfl
    | true =>
      rw [stepTask_over at_ ended] at failed
      cases going.symm.trans failed
  have kept : task.doomed = false := by
    cases doomed : task.doomed with
    | false => rfl
    | true =>
      rw [report?, progress?_stepTask_doomed at_ live doomed] at failed
      cases failed
  refine ⟨?_, kept⟩
  -- A task that has begun goes on to wait, or it reports what no call reports that goes to no cell.
  have later (begun : task.isBegun = true) :
      ((w.dismiss (.task t)).resume t task).report? t =
        some (task.errand.reportResponse (.error err)) := by
    rw [← stepTask_begun at_ kept live begun]
    exact failed
  have foreign {report : Report} (h : ∀ r, task.errand.reportResponse r ≠ report) :
      ((w.dismiss (.task t)).conclude t report).report? t ≠
        some (task.errand.reportResponse (.error err)) := by
    rw [report?_conclude (w := w.dismiss (.task t)) at_]
    intro same
    exact h _ (Option.some.inj same).symm
  have still : (w.dismiss (.task t)).report? t ≠
      some (task.errand.reportResponse (.error err)) := by
    intro same
    cases going.symm.trans same
  cases hp : task.progress with
  | fresh => rfl
  | waiting slot ctx =>
    rw [report?, progress?_stepTask_waiting at_ kept hp] at failed
    cases result : w.waitResult? slot ctx with
    | none =>
      rw [result] at failed
      cases failed
    | some r =>
      rw [result] at failed
      exact absurd (Option.some.inj failed) (reportWait_ne calls unrouted r)
  | watching ctx =>
    have resumed := later (by rw [Task.isBegun, hp])
    simp only [resume, hp] at resumed
    split at resumed
    · exact absurd resumed still
    · exact absurd resumed (foreign fun r => by cases task.errand <;> exact Report.noConfusion)
  | sleeping until_ =>
    have resumed := later (by rw [Task.isBegun, hp])
    simp only [resume, hp] at resumed
    split at resumed
    · split at resumed
      · rename_i errand
        rw [errand] at calls
        exact calls.elim
      · exact absurd resumed (foreign fun r => by cases task.errand <;> exact Report.noConfusion)
    · exact absurd resumed still
  | joining loops =>
    have resumed := later (by rw [Task.isBegun, hp])
    simp only [resume, hp] at resumed
    split at resumed
    · exact absurd resumed (foreign fun r => by cases task.errand <;> exact Report.noConfusion)
    · exact absurd resumed still
  | finished | aborted => simp [Task.isOver, hp] at live

/-- The world in which a task has come to its end and not let go of anything yet. -/
def atEnd (w : World β) (t : TaskId) (last : Progress) : World β :=
  { w with tasks := w.tasks.modify t fun task => { task with progress := last, seen := w.waiters } }

theorem conclude_eq (at_ : w.tasks.get? t = some task) (report : Report) :
    w.conclude t report = (w.atEnd t (.finished report)).letGo task := by
  rw [conclude, endTask, at_]
  rfl

theorem report?_atEnd (at_ : w.tasks.get? t = some task) (report : Report) :
    (w.atEnd t (.finished report)).report? t = some report := by
  refine report?_of_progress? ?_
  rw [progress?, atEnd, Table.get?_modify, if_pos rfl, at_]
  rfl

/-- What a call holds on to until it is over is the mesh that it asks in. -/
theorem letGo_ask {a : Ask} {now : Instant} (asks : task.errand.ask? now = some a) (w : World β) :
    task.errand.holds? = some a.mesh ∧ w.letGo task = w.release a.mesh := by
  cases errand : task.errand <;> rw [errand] at asks <;> cases asks <;>
    exact ⟨rfl, by rw [letGo, errand]⟩

/-- A request that is refused: it has reported so in a world that is untouched, and then lets go of
its mesh, which changes nothing either if somebody else holds it. -/
structure Declined (w : World β) (t : TaskId) (mesh : MeshId) (report : Report) (w₁ : World β) :
    Prop where
  reported : w₁.report? t = some report
  untouched : Untouched w w₁
  next : w.stepTask t = w₁.release mesh
  held : (∀ m, w.meshes.get? mesh = some m → 1 < m.holders) → Untouched w (w.stepTask t)

/-- **How a request is refused**: nothing is touched until it has reported the error. -/
theorem declined_stepTask (at_ : w.tasks.get? t = some task) (calls : task.errand.Calls)
    (going : w.report? t = none) (unrouted : err.Unrouted)
    (failed : (w.stepTask t).report? t = some (task.errand.reportResponse (.error err))) :
    ∃ mesh w₁, task.errand.holds? = some mesh ∧
      Declined w t mesh (task.errand.reportResponse (.error err)) w₁ := by
  obtain ⟨fresh, kept⟩ := fresh_of_unrouted at_ calls going unrouted failed
  obtain ⟨a, asks⟩ := calls.exists_ask w.now
  have first := progress?_stepTask_ask at_ asks fresh kept
  rcases stepTask_ask at_ asks fresh kept with ⟨err', nowhere, ended⟩ | ⟨key, leads, -⟩
  · rw [nowhere] at first
    have same := Option.some.inj ((report?_of_progress? first).symm.trans failed)
    set making := (w.dismiss (.task t)).withRequest a.topic a.values with making_def
    have still : making.tasks.get? t = some task := at_
    rw [same, conclude_eq still, (letGo_ask asks _).2] at ended
    have beside : Untouched w (making.atEnd t
        (.finished (task.errand.reportResponse (.error err)))) := .of_eq rfl rfl
    refine ⟨a.mesh, _, (letGo_ask asks w).1, report?_atEnd still _, beside, ended, fun held => ?_⟩
    rw [ended]
    exact beside.trans (untouched_release held)
  · exfalso
    cases went : w.err? a.ctx with
    | none =>
      rw [leads, went] at first
      rw [report?, first] at failed
      cases failed
    | some e =>
      rw [leads, went] at first
      have same := Option.some.inj ((report?_of_progress? first).symm.trans failed)
      exact reportWait_ne calls unrouted (.error e) ((calls.reportWait (.error e)).trans same)

end Requests

/-! ### All or nothing -/

/-- What is refused in a world changes nothing. -/
structure AllOrNothing [Behavior β] (w : World β) : Prop where
  /-- Operations that are refused at once. -/
  untouched : ∀ {w'}, Refused w w' → Untouched w w'
  /-- A start from outside. -/
  start : ∀ mesh id b {err}, (w.start mesh id b).1 = .error err →
    Leaves w mesh id (Behavior.init b) (w.start mesh id b).2
  /-- A start by a behavior. -/
  startWithin : ∀ mesh id seed (init : Outlet → Script β) {err},
    (w.startWith mesh id seed fun outlet w => perform (init outlet) w).1 = .error err →
      Leaves w mesh id init (w.startWith mesh id seed fun outlet w => perform (init outlet) w).2
  /-- The turn in which a request reports that there is no cell to take its event. -/
  request : ∀ {t task err}, w.tasks.get? t = some task → task.errand.Calls → w.report? t = none →
    err.Unrouted → (w.stepTask t).report? t = some (task.errand.reportResponse (.error err)) →
      ∃ mesh w₁, task.errand.holds? = some mesh ∧
        Declined w t mesh (task.errand.reportResponse (.error err)) w₁

/-- **Operations are done or leave the mesh as it was**, between any two steps of cells and callers,
in the middle of calls too. Whatever returns an error changes no registration, no route, no queue
and not whether the mesh stops; only a start may leave what the first call of the behavior did, and
nothing else, when it is turned away afterwards. -/
theorem all_or_nothing [Behavior β] {wall : Wall} {w : World β} {hand : CellKey → Hand}
    (past : Steps (startingAt wall) atRest w hand) : AllOrNothing w where
  untouched := Refused.untouched
  start mesh id b _ h := leaves_startWith (orderly_steps past) mesh id b (Behavior.init b) h
  startWithin mesh id seed init _ h := leaves_startWith (orderly_steps past) mesh id seed init h
  request := declined_stepTask

/-- A mesh with one cell, and a request to a cell that is not there. -/
def lonelyMesh : World (Resident Actor) := (startingAt ⟨0, 0⟩).run [
  .openMesh "mesh" (.ofMillis 1000),
  .start ⟨0⟩ ⟨"a"⟩ (.sceneKeeper {}),
  .spawn (.request ⟨0⟩ ⟨"b"⟩ "ask" .empty .background)]

/-- An actor that does something in its first call. -/
def opener (opening : Opening) : Resident Actor := .custom { rules := [], opening }

theorem all_or_nothing_lonelyMesh :
    Untouched lonelyMesh (lonelyMesh.subscribe ⟨0⟩ ⟨"a"⟩ [⟨"a"⟩, ⟨"b"⟩, ⟨"a"⟩]).2 ∧
    (lonelyMesh.start ⟨0⟩ ⟨"b"⟩ (opener .startSelf)).1 = .error (.duplicateCell ⟨"b"⟩) ∧
    Leaves lonelyMesh ⟨0⟩ ⟨"b"⟩ (Behavior.init (opener .startSelf))
      (lonelyMesh.start ⟨0⟩ ⟨"b"⟩ (opener .startSelf)).2 ∧
    (lonelyMesh.start ⟨0⟩ ⟨"b"⟩ (opener .stopMesh)).1 = .error .shuttingDown ∧
    Leaves lonelyMesh ⟨0⟩ ⟨"b"⟩ (Behavior.init (opener .stopMesh))
      (lonelyMesh.start ⟨0⟩ ⟨"b"⟩ (opener .stopMesh)).2 ∧
    Untouched lonelyMesh (lonelyMesh.stepTask ⟨0⟩) := by
  have past : Steps (startingAt ⟨0, 0⟩) atRest lonelyMesh atRest := steps_run _ _
  have all : AllOrNothing lonelyMesh := all_or_nothing past
  have missing : (lonelyMesh.subscribe ⟨0⟩ ⟨"a"⟩ [⟨"a"⟩, ⟨"b"⟩, ⟨"a"⟩]).1 =
      .error (.cellNotFound ⟨"b"⟩) := rfl
  have taken : (lonelyMesh.start ⟨0⟩ ⟨"b"⟩ (opener .startSelf)).1 =
      .error (.duplicateCell ⟨"b"⟩) := rfl
  have closed : (lonelyMesh.start ⟨0⟩ ⟨"b"⟩ (opener .stopMesh)).1 = .error .shuttingDown := rfl
  obtain ⟨mesh, w₁, holds, declined⟩ :=
    all.request (t := ⟨0⟩) rfl trivial rfl (.cellNotFound ⟨"b"⟩) rfl
  refine ⟨all.untouched (.subscribe missing), taken, all.start _ _ _ taken, closed,
    all.start _ _ _ closed, declined.held ?_⟩
  cases holds
  rintro m ⟨⟩
  decide

end World

end EventMesh
