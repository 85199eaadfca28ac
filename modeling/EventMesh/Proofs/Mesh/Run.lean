import EventMesh.Proofs.Mesh.Course

/-!
# Runs

A `Move` is one thing that a program does from outside (it opens, shares, stops or lets go of meshes,
starts and stops cells, sends events, spawns requests, sets waiters, lets time go by) or one step of
a cell or a task in its turn. A run is any list of moves, so it covers every interleaving of the
callers with the cells and tasks, in any order of turns. Main statements: every move but the turn of a
cell is a course (`course_act`), that of a task among them (`course_stepTask`), and settling is a run
(`exists_settle`).
-/

namespace EventMesh

/-- Whether a task is there to deliver the event of a reminder. -/
def Errand.Reminds : Errand → Prop
  | .remind .. => True
  | .wait .. | .waitFlag .. | .request .. | .tally .. | .watch _ | .sleep _ | .shutdown _ => False

namespace World

open Time

variable {β : Type}

/-! ### Tasks -/

theorem course_spawn (w : World β) (errand : Errand) : Course w (w.spawn errand).2 := by
  cases h : errand.holds? with
  | none => exact .aside (aside_spawn w errand h)
  | some mesh =>
    simp only [spawn, h]
    have adding : Aside w { w with tasks := w.tasks.add { errand } } := .of_eq rfl rfl rfl
    exact ((Course.aside adding).trans (.single (.hold mesh))).trans
      (.aside (aside_enlist_task _ _))

theorem polls_course : Polls (Course (β := β)) fun _ => True where
  toCarries := carries_course
  dismiss w t := .aside (aside_dismiss_task w t)
  modifyTask _ _ _ _ := .aside (.of_eq rfl rfl rfl)
  holdFlag _ _ _ := .aside (.of_eq rfl rfl rfl)
  unholdFlag _ _ _ := .aside (.of_eq rfl rfl rfl)
  request _ _ _ := .aside (.of_eq rfl rfl rfl)
  release _ mesh := .single (.release mesh)
  beginShutdown _ mesh := .single (.beginShutdown mesh)

theorem course_stepTask (w : World β) (t : TaskId) : Course w (w.stepTask t) :=
  polls_course.stepTask w t (fun _ _ _ _ _ _ => trivial) fun _ _ _ _ => asks_any w _

/-! ### Moves -/

/-- What a program does from outside, or one step of a job. -/
inductive Move (β : Type) where
  | openMesh (name : String) (requestTimeout : Duration)
  /-- One more hold on a mesh. -/
  | share (mesh : MeshId)
  /-- One hold on a mesh less. -/
  | release (mesh : MeshId)
  | start (mesh : MeshId) (id : CellId) (seed : β)
  | stopCell (mesh : MeshId) (id : CellId)
  | subscribe (mesh : MeshId) (emitter : CellId) (ids : List CellId)
  | unsubscribe (mesh : MeshId) (emitter : CellId) (ids : List CellId)
  | emit (mesh : MeshId) (target : CellId) (e : Event)
  /-- Makes an event and sends it. -/
  | emitNew (mesh : MeshId) (target : CellId) (topic : String) (values : Source)
  /-- A task of a program's own: a request, a shutdown or any wait. -/
  | spawn (errand : Errand)
  | abort (t : TaskId)
  | newReminder
  | attach (r : ReminderId) (t : TaskId)
  | cancelReminder (r : ReminderId)
  | newWaiter
  | answer (waiter : WaiterId) (p : Payload)
  | newScene
  | store (scene : SceneId) (key : String) (p : Payload)
  | derive (ctx : Context)
  | cancelScope (s : ScopeId)
  /-- Both clocks go on. -/
  | pass (nanos : Nat)
  /-- The time of day is set forward or back. -/
  | jump (nanos : Int)
  /-- What has come due gets ready. -/
  | wake
  | turn (j : Job)

variable [Behavior β]

/-- The world after a move. Reminders are spawned by the behaviors that schedule them only. -/
def act (w : World β) : Move β → World β
  | .openMesh name requestTimeout => (w.openMesh name requestTimeout).2
  | .share mesh => w.hold mesh
  | .release mesh => w.release mesh
  | .start mesh id seed => (w.start mesh id seed).2
  | .stopCell mesh id => (w.stopCell mesh id).2
  | .subscribe mesh emitter ids => (w.subscribe mesh emitter ids).2
  | .unsubscribe mesh emitter ids => (w.unsubscribe mesh emitter ids).2
  | .emit mesh target e => (w.deliver mesh target e).2
  | .emitNew mesh target topic values =>
    let (e, w) := w.make (Event.make topic values none w.clock.wall)
    (w.deliver mesh target e).2
  | .spawn (.remind ..) => w
  | .spawn errand => (w.spawn errand).2
  | .abort t => w.abort t
  | .newReminder => w.addReminder.2
  | .attach r t => w.attach r t
  | .cancelReminder r => w.cancelReminder r
  | .newWaiter => w.addWaiter.2
  | .answer waiter p => (w.answer waiter p).2
  | .newScene => w.addScene.2
  | .store scene key p => (w.store scene key p).2
  | .derive ctx => (w.deriveContext ctx).2
  | .cancelScope s => w.cancelScope s
  | .pass nanos => { w with clock := w.clock.advance nanos }
  | .jump nanos => { w with clock := w.clock.jump nanos }
  | .wake => w.wake
  | .turn j => w.turn j

/-- The world after moves, made one after the other. -/
def run (w : World β) (moves : List (Move β)) : World β := moves.foldl act w

@[simp] theorem run_nil (w : World β) : w.run [] = w := rfl

@[simp] theorem run_cons (w : World β) (m : Move β) (moves : List (Move β)) :
    w.run (m :: moves) = (w.act m).run moves := rfl

theorem run_append (w : World β) (first second : List (Move β)) :
    w.run (first ++ second) = (w.run first).run second :=
  List.foldl_append

/-- A program spawns tasks of its own only. -/
theorem act_spawn (w : World β) (errand : Errand) :
    errand.Reminds ∧ w.act (.spawn errand) = w ∨
      ¬ errand.Reminds ∧ w.act (.spawn errand) = (w.spawn errand).2 := by
  cases errand with
  | remind => exact Or.inl ⟨trivial, rfl⟩
  | wait | waitFlag | request | tally | watch | sleep | shutdown => exact Or.inr ⟨id, rfl⟩

/-- Every move but the turn of a cell is a course. -/
theorem course_act (w : World β) (m : Move β) (h : ∀ key, m ≠ .turn (.cell key)) :
    Course w (w.act m) := by
  cases m with
  | openMesh name requestTimeout => exact .single (.openMesh name requestTimeout)
  | share mesh => exact .single (.hold mesh)
  | release mesh => exact .single (.release mesh)
  | start mesh id seed => exact course_start w mesh id seed
  | stopCell mesh id => exact .single (.stopCell mesh id)
  | subscribe mesh emitter ids => exact .single (.subscribe mesh emitter ids)
  | unsubscribe mesh emitter ids => exact .single (.unsubscribe mesh emitter ids)
  | emit mesh target e => exact carries_course.deliver w mesh target trivial
  | emitNew mesh target topic values => exact (carries_course.deliver _ mesh target trivial).after rfl rfl rfl
  | spawn errand =>
    rcases act_spawn w errand with ⟨-, same⟩ | ⟨-, spawned⟩
    · rw [same]
      exact .refl w
    · rw [spawned]
      exact course_spawn w errand
  | abort t => exact .aside (aside_abort w t)
  | newReminder => exact .aside (.of_eq rfl rfl rfl)
  | attach r t => exact .aside (aside_attach w r t)
  | cancelReminder r => exact .aside (aside_cancelReminder w r)
  | newWaiter => exact .aside (.of_eq rfl rfl rfl)
  | answer waiter p => exact .aside (aside_answer w waiter p)
  | newScene => exact .aside (.of_eq rfl rfl rfl)
  | store scene key p => exact .aside (aside_store w scene key p)
  | derive ctx => exact .aside (.of_eq rfl rfl rfl)
  | cancelScope s => exact .aside (aside_cancelScope w s)
  | pass nanos => exact .aside (.of_eq rfl rfl rfl)
  | jump nanos => exact .aside (.of_eq rfl rfl rfl)
  | wake => exact .aside (aside_wake w)
  | turn j =>
    cases j with
    | cell key => exact absurd rfl (h key)
    | task t => exact course_stepTask w t

/-! ### The schedules of the program itself -/

theorem exists_settleWithin (n : Nat) (w : World β) :
    ∃ moves, w.run moves = settleWithin n w := by
  induction n generalizing w with
  | zero => exact ⟨[], rfl⟩
  | succ n ih =>
    rw [settleWithin]
    split
    · exact ⟨[], rfl⟩
    · rename_i j rest _
      obtain ⟨moves, h⟩ := ih (w.turn j)
      exact ⟨.turn j :: moves, h⟩

/-- Settling is a run. -/
theorem exists_settle (w : World β) : ∃ moves, w.run moves = w.settle :=
  exists_settleWithin _ w

/-- So is letting time go by. -/
theorem exists_elapse (stops ms : Nat) (w : World β) : ∃ moves, w.run moves = elapse stops ms w := by
  induction stops generalizing ms w with
  | zero => exact ⟨[.pass (ms * nanosPerMilli)], rfl⟩
  | succ stops ih =>
    rw [elapse]
    split
    · exact ⟨[.pass (ms * nanosPerMilli)], rfl⟩
    · rename_i ticks _
      split
      · obtain ⟨settling, hs⟩ := exists_settle (wake (w.skip ticks))
        obtain ⟨moves, hm⟩ := ih (ms - ticks) (w.pass ticks)
        refine ⟨.pass (ticks * nanosPerMilli) :: .wake :: (settling ++ moves), ?_⟩
        rw [run_cons, run_cons, run_append]
        exact (congrArg (run · moves) hs).trans hm
      · exact ⟨[.pass (ms * nanosPerMilli)], rfl⟩

end World

end EventMesh
