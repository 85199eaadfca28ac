import EventMesh.Proofs.Wait.Stir
import Mathlib.Logic.Relation

/-!
# Polls

A turn of a task does a few things one after the other. `Piece` lists them, with all that each of
them says about the task, its errand and the world in which it happens: what those who wait do not
depend on, a new waiter, the beginning of a wait for a waiter or for a flag or of another pause, and
the end. Main statements: a turn is a sequence of pieces (`pieces_stepTask`), a task that had its
turn waits for nothing that is there (`rested_stepTask`), and what the first and each later turn of a
wait comes to (`progress?_beginWait`, `progress?_resumeWait`).
-/

namespace EventMesh

/-- Whether a task with the errand may wait for the reply of a waiter within a context. -/
def Errand.AwaitsReply : Errand → WaiterId → Context → Prop
  | .wait v ctx, v', ctx' => v' = v ∧ ctx' = ctx
  | .request .., _, _ | .tally .., _, _ => True
  | .waitFlag .., _, _ | .watch _, _, _ | .sleep _, _, _ | .remind .., _, _
  | .shutdown _, _, _ => False

/-- Whether a task with the errand may pause like this, with nothing to wait for but time, the end
of a context or the end of loops. -/
def Errand.PausesAs : Errand → Progress → Prop
  | .watch ctx, .watching ctx' => ctx' = ctx
  | .sleep _, .sleeping _ | .remind .., .sleeping _ | .shutdown _, .joining _ => True
  | _, _ => False

/-- The scenes after a task let go of the flag it waited for, if it waited for one. -/
def Task.leave (task : Task) (scenes : Scenes) : Scenes :=
  match task.errand with
  | .waitFlag scene key _ => if task.isBegun then scenes.modify scene (·.unhold key) else scenes
  | _ => scenes

/-- Changes of the flags of a scene leave what is written. -/
theorem stored_modify {scenes : Scenes} {scene j : SceneId} {f : Scene → Scene}
    (h : ∀ board, (f board).stored = board.stored) :
    ((scenes.modify scene f).get? j).map (·.stored) = (scenes.get? j).map (·.stored) := by
  rw [Table.get?_modify]
  split
  · cases scenes.get? j with
    | none => rfl
    | some board => exact congrArg some (h board)
  · rfl

theorem stored_unhold (board : Scene) (key : String) : (board.unhold key).stored = board.stored := by
  unfold Scene.unhold
  split
  · rfl
  · split <;> rfl

theorem stored_leave (task : Task) (scenes : Scenes) (j : SceneId) :
    ((task.leave scenes).get? j).map (·.stored) = (scenes.get? j).map (·.stored) := by
  unfold Task.leave
  split
  · split
    · exact stored_modify fun board => stored_unhold board _
    · rfl
  · rfl

namespace World

variable {β : Type}

/-! ### The end of a task -/

theorem waits_letGo (w : World β) (task : Task) :
    (w.letGo task).waits = { w.waits with scenes := task.leave w.scenes } := by
  obtain ⟨errand, progress, doomed, seen⟩ := task
  cases errand with
  | waitFlag scene key ctx =>
    simp only [letGo, Task.leave]
    split <;> rfl
  | request mesh | tally mesh | shutdown mesh => exact (clears_confined.release w mesh).apart.waits
  | wait | watch | sleep | remind => rfl

theorem mem_ready_letGo {w : World β} (task : Task) {t : TaskId} (h : .task t ∈ w.ready) :
    .task t ∈ (w.letGo task).ready := by
  obtain ⟨errand, progress, doomed, seen⟩ := task
  cases errand with
  | waitFlag scene key ctx =>
    simp only [letGo]
    split <;> exact h
  | request mesh | tally mesh | shutdown mesh => exact (clears_confined.release w mesh).ready t h
  | wait | watch | sleep | remind => exact h

theorem waits_endTask {w : World β} {t : TaskId} {task : Task} (at_ : w.tasks.get? t = some task)
    (last : Progress) :
    (w.endTask t last).waits = { w.waits with
      tasks := w.tasks.modify t fun task => { task with progress := last, seen := w.waiters }
      scenes := task.leave w.scenes } := by
  simp only [endTask, at_, waits_letGo]
  rfl

theorem mem_ready_endTask {w : World β} {t j : TaskId} (last : Progress) (h : .task j ∈ w.ready) :
    .task j ∈ (w.endTask t last).ready := by
  unfold endTask
  split
  · exact h
  · exact mem_ready_letGo _ h

/-- How a task ended stays with it. -/
theorem get?_endTask {w : World β} {t : TaskId} {task : Task} (at_ : w.tasks.get? t = some task)
    (last : Progress) : (w.endTask t last).tasks.get? t =
      some { task with progress := last, seen := w.waiters } := by
  rw [show (w.endTask t last).tasks = _ from congrArg Waits.tasks (waits_endTask at_ last),
    Table.get?_modify, if_pos rfl, at_]
  rfl

theorem get?_setProgress {w : World β} {t : TaskId} {task : Task}
    (at_ : w.tasks.get? t = some task) (progress : Progress) :
    (w.setProgress t progress).tasks.get? t = some { task with progress } := by
  rw [setProgress, Table.get?_modify, if_pos rfl, at_]
  rfl

/-! ### Requests -/

theorem waiters_endTask (w : World β) (t : TaskId) (last : Progress) :
    (w.endTask t last).waiters = w.waiters := by
  cases at_ : w.tasks.get? t with
  | none => rw [endTask, at_]
  | some task => exact congrArg Waits.waiters (waits_endTask at_ last)

theorem waiters_beginWait (w : World β) (t : TaskId) (errand : Errand) (slot : Slot)
    (ctx : Context) : (w.beginWait t errand slot ctx).waiters = w.waiters := by
  unfold beginWait resumeWait
  dsimp only
  split
  · exact waiters_endTask _ t _
  · split
    · rfl
    · exact waiters_endTask _ t _

/-- A request makes one waiter. -/
theorem size_beginRequest (w : World β) (t : TaskId) (errand : Errand) (mesh : MeshId)
    (target : CellId) (topic : String) (values : Source) (ctx : Context) :
    (w.beginRequest t errand mesh target topic values ctx).waiters.size = w.waiters.size + 1 := by
  have made : (w.withRequest topic values).waiters.size = w.waiters.size + 1 := Table.size_add ..
  rcases beginRequest_cases w t errand mesh target topic values ctx with
    ⟨err, -, began⟩ | ⟨key, -, began⟩
  · rw [began, conclude, waiters_endTask, made]
  · rw [began, waiters_beginWait, (confined_accept _ _ _).apart.waiters, made]

/-! ### Pieces -/

/-- How a task may end in a world, and with what. -/
inductive Ends (w : World β) (task : Task) : Progress → Prop
  | aborted : Ends w task .aborted
  | answered {slot : Slot} {ctx : Context} {r : Except EventError Payload}
      (waiting : task.progress = .waiting slot ctx) (h : w.waitResult? slot ctx = some r) :
      Ends w task (.finished (task.errand.reportWait r))
  /-- The context had ended already when the wait began. -/
  | late {slot : Slot} {ctx : Context} {e : EventError}
      (waiting : task.progress = .waiting slot ctx) (h : w.err? ctx = some e) :
      Ends w task (.finished (task.errand.reportWait (.error e)))
  /-- No cell took the event of a request. -/
  | unsent (sends : ∀ v ctx, task.errand.AwaitsReply v ctx) (err : MeshError) :
      Ends w task (.finished (task.errand.reportResponse (.error err)))
  | watched {ctx : Context} {e : EventError} (watching : task.progress = .watching ctx)
      (h : w.err? ctx = some e) : Ends w task (.finished (.contextEnded e))
  | slept {until_ : Time.Instant} (sleeping : task.progress = .sleeping until_) :
      Ends w task (.finished .slept)
  | reminded {until_ : Time.Instant} (sleeping : task.progress = .sleeping until_) :
      Ends w task (.finished .reminded)
  | shutDown {loops : List CellKey} (joining : task.progress = .joining loops) :
      Ends w task (.finished .shutDown)

theorem Ends.isOver {w : World β} {task : Task} {last : Progress} (ends : Ends w task last)
    (task' : Task) (h : task'.progress = last) : task'.isOver = true := by
  rw [Task.isOver, h]
  cases ends <;> rfl

theorem waitResult?_eq_ok {w : World β} {slot : Slot} {ctx : Context} {p : Payload}
    (h : w.waitResult? slot ctx = some (.ok p)) : w.slotReply? slot = some p := by
  unfold waitResult? at h
  split at h
  · rename_i q hq
    cases h
    exact hq
  · obtain ⟨e, -, he⟩ := Option.map_eq_some_iff.mp h
    cases he

/-- What a turn of a task can do in one go. -/
inductive Piece (t : TaskId) (w : World β) : World β → Prop
  | beside {w' : World β} (waits : w'.waits = w.waits)
      (ready : ∀ j ≠ t, .task j ∈ w.ready → .task j ∈ w'.ready) : Piece t w w'
  | addWaiter : Piece t w w.addWaiter.2
  | wait {task : Task} {v : WaiterId} {ctx : Context} (at_ : w.tasks.get? t = some task)
      (fresh : task.progress = .fresh) (h : task.errand.AwaitsReply v ctx) :
      Piece t w (w.setProgress t (.waiting (.waiter v) ctx))
  | waitFlag {task : Task} {scene : SceneId} {key : String} {ctx : Context} {board : Scene}
      (at_ : w.tasks.get? t = some task) (fresh : task.progress = .fresh)
      (errand : task.errand = .waitFlag scene key ctx) (found : w.scenes.get? scene = some board) :
      Piece t w ((w.holdFlag scene key).setProgress t
        (.waiting (.flag (board.flag key w.flags.next).slot) ctx))
  | pause {task : Task} {progress : Progress} (at_ : w.tasks.get? t = some task)
      (fresh : task.progress = .fresh) (h : task.errand.PausesAs progress) :
      Piece t w (w.setProgress t progress)
  | stop {task : Task} {last : Progress} (at_ : w.tasks.get? t = some task)
      (live : task.isOver = false) (ends : Ends w task last) : Piece t w (w.endTask t last)

/-- Pieces one after the other. -/
abbrev Pieces (t : TaskId) : World β → World β → Prop := Relation.ReflTransGen (Piece t)

theorem Piece.apart (t : TaskId) {w w' : World β} (h : Apart w w') : Piece t w w' :=
  .beside h.waits fun j _ hj => h.ready j hj

section

variable {w : World β} {t : TaskId} {task : Task}

theorem pieces_resumeWait {slot : Slot} {ctx : Context} (at_ : w.tasks.get? t = some task)
    (waiting : task.progress = .waiting slot ctx) :
    Pieces t w (w.resumeWait t task.errand slot ctx) := by
  have live : task.isOver = false := by rw [Task.isOver, waiting]
  unfold resumeWait
  split
  · exact .refl
  · rename_i r h
    exact .single (.stop at_ live (.answered waiting h))

/-- A wait that begins, once it is noted that it does. -/
theorem pieces_beginWait {w₀ : World β} {slot : Slot} {ctx : Context}
    (at_ : w.tasks.get? t = some task) (noted : Pieces t w₀ (w.setProgress t (.waiting slot ctx))) :
    Pieces t w₀ (w.beginWait t task.errand slot ctx) := by
  have waits := get?_setProgress at_ (.waiting slot ctx)
  have going := pieces_resumeWait waits rfl
  refine noted.trans ?_
  unfold beginWait
  dsimp only
  split
  · rename_i e h
    exact .single (.stop waits rfl (.late rfl h))
  · exact going

theorem pieces_resume (at_ : w.tasks.get? t = some task) (live : task.isOver = false) :
    Pieces t w (w.resume t task) := by
  unfold resume
  split
  · exact .refl
  · exact .refl
  · exact .refl
  · rename_i waiting
    exact pieces_resumeWait at_ waiting
  · rename_i watching
    split
    · exact .refl
    · rename_i e h
      exact .single (.stop at_ live (.watched watching h))
  · rename_i sleeping
    split
    · split
      · split
        · exact .single (.stop at_ live (.reminded sleeping))
        · rename_i cell reminder _ e _ _
          have sent := (carries_confined.deliverTo w cell (e := e) trivial).apart
          have still : (w.deliverTo cell e).tasks.get? t = some task := by rw [sent.tasks, at_]
          exact .tail (.single (.apart t sent)) (.stop still live (.reminded sleeping))
      · exact .single (.stop at_ live (.slept sleeping))
    · exact .refl
  · rename_i joining
    split
    · exact .single (.stop at_ live (.shutDown joining))
    · exact .refl

theorem pieces_continueAs {progress : Progress} (at_ : w.tasks.get? t = some task)
    (fresh : task.progress = .fresh) (h : task.errand.PausesAs progress) :
    Pieces t w (w.continueAs t task progress) := by
  have pausing : Task.isOver { task with progress } = false := by
    revert h
    cases task.errand <;> cases progress <;> simp [Errand.PausesAs, Task.isOver]
  exact .trans (.single (.pause at_ fresh h)) (pieces_resume (get?_setProgress at_ progress) pausing)

theorem pieces_beginRequest (at_ : w.tasks.get? t = some task) (fresh : task.progress = .fresh)
    (h : ∀ v ctx, task.errand.AwaitsReply v ctx) (mesh : MeshId) (target : CellId) (topic : String)
    (values : Source) (ctx : Context) :
    Pieces t w (w.beginRequest t task.errand mesh target topic values ctx) := by
  have live : task.isOver = false := by rw [Task.isOver, fresh]
  have made : Pieces t w (w.withRequest topic values) :=
    .tail (.single .addWaiter) (.apart t (.of_eq rfl rfl))
  have still : (w.withRequest topic values).tasks.get? t = some task := at_
  rcases beginRequest_cases w t task.errand mesh target topic values ctx with
    ⟨err, -, began⟩ | ⟨key, -, began⟩
  · rw [began]
    exact made.tail (.stop still live (.unsent h err))
  · have sent :=
      (confined_accept (w.withRequest topic values) key (w.requestEvent topic values).1).apart
    have still := sent.tasks ▸ still
    rw [began]
    exact pieces_beginWait still ((made.tail (.apart t sent)).tail (.wait still fresh (h _ _)))

theorem pieces_begin (at_ : w.tasks.get? t = some task) (fresh : task.progress = .fresh) :
    Pieces t w (w.begin t task) := by
  have live : task.isOver = false := by rw [Task.isOver, fresh]
  unfold begin
  split
  · rename_i v ctx errand
    exact pieces_beginWait at_ (.single (.wait at_ fresh (by simp [errand, Errand.AwaitsReply])))
  · rename_i scene key ctx errand
    split
    · exact .single (.stop at_ live .aborted)
    · rename_i board found
      exact pieces_beginWait (w := w.holdFlag scene key) at_
        (.single (.waitFlag at_ fresh errand found))
  · rename_i errand
    exact pieces_beginRequest at_ fresh (fun _ _ => by simp [errand, Errand.AwaitsReply]) _ _ _ _ _
  · rename_i errand
    exact pieces_beginRequest at_ fresh (fun _ _ => by simp [errand, Errand.AwaitsReply]) _ _ _ _ _
  · rename_i errand
    exact pieces_continueAs at_ fresh (by simp [errand, Errand.PausesAs])
  · rename_i errand
    exact pieces_continueAs at_ fresh (by simp [errand, Errand.PausesAs])
  · rename_i errand
    exact pieces_continueAs at_ fresh (by simp [errand, Errand.PausesAs])
  · rename_i mesh errand
    have begun := (clears_confined.beginShutdown w mesh).apart
    have still : (w.beginShutdown mesh).2.tasks.get? t = some task := by rw [begun.tasks, at_]
    exact .trans (.single (.apart t begun))
      (pieces_continueAs still fresh (by simp [errand, Errand.PausesAs]))

end

/-- **A turn of a task is a sequence of pieces.** -/
theorem pieces_stepTask (w : World β) (t : TaskId) : Pieces t w (w.stepTask t) := by
  have dismissed : Piece t w (w.dismiss (.task t)) :=
    .beside rfl fun j hj h => (List.mem_erase_of_ne (by simpa using hj)).mpr h
  refine .head dismissed ?_
  unfold stepTask
  dsimp only
  split
  · exact .refl
  · rename_i task at_
    split
    · exact .refl
    · rename_i live
      have live : task.isOver = false := by simpa using live
      split
      · exact .single (.stop at_ live .aborted)
      · split
        · exact pieces_resume at_ live
        · rename_i begun
          refine pieces_begin at_ ?_
          revert begun
          rw [Task.isBegun]
          split <;> simp_all

/-! ### What a turn spares -/

/-- What a turn of a task leaves as it was: the clock, the scopes, all slots, what is written, the
other tasks, and which of them are ready. -/
structure Spares (t : TaskId) (w w' : World β) : Prop where
  now : w'.now = w.now
  scopes : w'.scopes = w.scopes
  slotReply? : ∀ slot, w'.slotReply? slot = w.slotReply? slot
  stored : ∀ scene, (w'.scenes.get? scene).map (·.stored) = (w.scenes.get? scene).map (·.stored)
  tasks : ∀ j ≠ t, w'.tasks.get? j = w.tasks.get? j
  ready : ∀ j ≠ t, .task j ∈ w.ready → .task j ∈ w'.ready

namespace Spares

variable {t : TaskId} {w w₁ w₂ : World β}

theorem refl (w : World β) : Spares t w w :=
  ⟨rfl, rfl, fun _ => rfl, fun _ => rfl, fun _ _ => rfl, fun _ _ h => h⟩

theorem trans (h : Spares t w w₁) (h' : Spares t w₁ w₂) : Spares t w w₂ where
  now := h'.now.trans h.now
  scopes := h'.scopes.trans h.scopes
  slotReply? slot := (h'.slotReply? slot).trans (h.slotReply? slot)
  stored scene := (h'.stored scene).trans (h.stored scene)
  tasks j hj := (h'.tasks j hj).trans (h.tasks j hj)
  ready j hj hr := h'.ready j hj (h.ready j hj hr)

/-- What those who wait depend on is spared. -/
theorem of_waits (hw : w₁.waits = w.waits)
    (hr : ∀ j ≠ t, .task j ∈ w.ready → .task j ∈ w₁.ready) : Spares t w w₁ where
  now := congrArg Waits.now hw
  scopes := congrArg Waits.scopes hw
  slotReply? := slotReply?_congr (congrArg Waits.waiters hw) (congrArg Waits.flags hw)
  stored scene := by rw [show w₁.scenes = w.scenes from congrArg Waits.scenes hw]
  tasks j _ := by rw [show w₁.tasks = w.tasks from congrArg Waits.tasks hw]
  ready := hr

end Spares

theorem spares_setProgress (w : World β) (t : TaskId) (progress : Progress) :
    Spares t w (w.setProgress t progress) where
  now := rfl
  scopes := rfl
  slotReply? slot := by cases slot <;> rfl
  stored _ := rfl
  tasks j hj := by rw [setProgress, Table.get?_modify, if_neg (Ne.symm hj)]
  ready _ _ h := h

theorem spares_endTask (w : World β) (t : TaskId) (last : Progress) :
    Spares t w (w.endTask t last) := by
  cases at_ : w.tasks.get? t with
  | none =>
    rw [endTask, at_]
    exact .refl w
  | some task =>
    have waits := waits_endTask at_ last
    refine ⟨congrArg Waits.now waits, congrArg Waits.scopes waits,
      slotReply?_congr (congrArg Waits.waiters waits) (congrArg Waits.flags waits), fun scene => ?_,
      fun j hj => ?_, fun j _ h => mem_ready_endTask last h⟩
    · rw [show (w.endTask t last).scenes = task.leave w.scenes from congrArg Waits.scenes waits]
      exact stored_leave task w.scenes scene
    · rw [show (w.endTask t last).tasks = _ from congrArg Waits.tasks waits, Table.get?_modify,
        if_neg (Ne.symm hj)]

theorem spares_holdFlag (w : World β) (t : TaskId) (scene : SceneId) (key : String) :
    Spares t w (w.holdFlag scene key) where
  now := rfl
  scopes := rfl
  slotReply? slot := by
    cases slot with
    | waiter v => rfl
    | flag f => exact Table.reply?_add w.flags f
  stored j := stored_modify fun board => rfl
  tasks _ _ := rfl
  ready _ _ h := h

theorem Piece.spares {t : TaskId} {w w' : World β} (h : Piece t w w') : Spares t w w' := by
  cases h with
  | beside waits ready => exact .of_waits waits ready
  | addWaiter =>
    refine ⟨rfl, rfl, fun slot => ?_, fun _ => rfl, fun _ _ => rfl, fun _ _ h => h⟩
    cases slot with
    | waiter v => exact Table.reply?_add w.waiters v
    | flag f => rfl
  | wait => exact spares_setProgress w t _
  | waitFlag => exact (spares_holdFlag w t _ _).trans (spares_setProgress _ t _)
  | pause => exact spares_setProgress w t _
  | stop => exact spares_endTask w t _

theorem spares_pieces {t : TaskId} {w w' : World β} (h : Pieces t w w') : Spares t w w' := by
  induction h with
  | refl => exact .refl w
  | tail _ piece ih => exact ih.trans piece.spares

/-- **A turn of a task changes nothing for the others.** -/
theorem spares_stepTask (w : World β) (t : TaskId) : Spares t w (w.stepTask t) :=
  spares_pieces (pieces_stepTask w t)

/-! ### What a turn leaves waiting -/

/-- Whether a task that has come so far took its first step and cannot come on now. -/
def Stays (w : World β) : Progress → Prop
  | .fresh => False
  | .waiting slot ctx => w.waitResult? slot ctx = none
  | .watching _ | .sleeping _ | .joining _ | .finished _ | .aborted => True

/-- The task took its first step and waits for nothing that is there. -/
def Rested (w : World β) (t : TaskId) : Prop := ∀ progress, w.progress? t = some progress → w.Stays progress

section

variable {w : World β} {t : TaskId} {task : Task}

theorem progress?_of_get? (at_ : w.tasks.get? t = some task) : w.progress? t = some task.progress := by
  rw [progress?, at_]
  rfl

theorem progress?_conclude (at_ : w.tasks.get? t = some task) (report : Report) :
    (w.conclude t report).progress? t = some (.finished report) :=
  progress?_of_get? (get?_endTask at_ _)

theorem rested_of_progress? {progress : Progress} (h : w.progress? t = some progress)
    (stays : w.Stays progress) : w.Rested t := by
  intro progress' h'
  rw [h] at h'
  cases h'
  exact stays

theorem rested_conclude (at_ : w.tasks.get? t = some task) (report : Report) :
    (w.conclude t report).Rested t :=
  rested_of_progress? (progress?_conclude at_ report) trivial

/-- What each later turn of a wait comes to. -/
theorem progress?_resumeWait {slot : Slot} {ctx : Context} (at_ : w.tasks.get? t = some task)
    (waiting : task.progress = .waiting slot ctx) (errand : Errand) :
    (w.resumeWait t errand slot ctx).progress? t =
      some ((w.waitResult? slot ctx).elim (.waiting slot ctx) fun r =>
        .finished (errand.reportWait r)) := by
  unfold resumeWait
  split
  · rename_i h
    rw [h, progress?_of_get? at_, waiting]
    rfl
  · rename_i r h
    rw [h, progress?_conclude at_]
    rfl

/-- What the first turn of a wait comes to. -/
theorem progress?_beginWait (at_ : w.tasks.get? t = some task) (errand : Errand) (slot : Slot)
    (ctx : Context) :
    (w.beginWait t errand slot ctx).progress? t =
      some (((w.err? ctx).map .error |>.or (w.waitResult? slot ctx)).elim (.waiting slot ctx)
        fun r => .finished (errand.reportWait r)) := by
  have noted := get?_setProgress at_ (.waiting slot ctx)
  have later := progress?_resumeWait noted rfl errand
  unfold beginWait
  dsimp only
  split
  · rename_i e h
    rw [progress?_conclude noted, show w.err? ctx = some e from h]
    rfl
  · rename_i h
    rw [later, show w.err? ctx = none from h]
    rfl

theorem rested_resumeWait {slot : Slot} {ctx : Context} (at_ : w.tasks.get? t = some task)
    (waiting : task.progress = .waiting slot ctx) (errand : Errand) :
    (w.resumeWait t errand slot ctx).Rested t := by
  unfold resumeWait
  split
  · rename_i h
    refine rested_of_progress? (progress?_of_get? at_) ?_
    rw [waiting]
    exact h
  · exact rested_conclude at_ _

theorem rested_beginWait (at_ : w.tasks.get? t = some task) (errand : Errand) (slot : Slot)
    (ctx : Context) : (w.beginWait t errand slot ctx).Rested t := by
  have noted := get?_setProgress at_ (.waiting slot ctx)
  unfold beginWait
  dsimp only
  split
  · exact rested_conclude noted _
  · exact rested_resumeWait noted rfl errand

theorem rested_beginRequest (at_ : w.tasks.get? t = some task) (errand : Errand) (mesh : MeshId)
    (target : CellId) (topic : String) (values : Source) (ctx : Context) :
    (w.beginRequest t errand mesh target topic values ctx).Rested t := by
  have still : (w.withRequest topic values).tasks.get? t = some task := at_
  rcases beginRequest_cases w t errand mesh target topic values ctx with
    ⟨err, -, began⟩ | ⟨key, -, began⟩
  · rw [began]
    exact rested_conclude still _
  · have sent :=
      (confined_accept (w.withRequest topic values) key (w.requestEvent topic values).1).apart
    rw [began]
    exact rested_beginWait (sent.tasks ▸ still) _ _ _

theorem rested_resume (at_ : w.tasks.get? t = some task) (begun : task.isBegun = true) :
    (w.resume t task).Rested t := by
  have here {progress : Progress} (h : task.progress = progress) (stays : w.Stays progress) :
      w.Rested t :=
    rested_of_progress? (progress?_of_get? at_) (h ▸ stays)
  unfold resume
  split
  · rename_i fresh
    rw [Task.isBegun, fresh] at begun
    cases begun
  · rename_i h
    exact here h trivial
  · rename_i h
    exact here h trivial
  · rename_i waiting
    exact rested_resumeWait at_ waiting _
  · rename_i h
    split
    · exact here h trivial
    · exact rested_conclude at_ _
  · rename_i h
    split
    · split
      · split
        · exact rested_conclude at_ _
        · rename_i cell _ _ e _ _
          exact rested_conclude ((carries_confined.deliverTo w cell (e := e) trivial).apart.tasks ▸ at_) _
      · exact rested_conclude at_ _
    · exact here h trivial
  · rename_i h
    split
    · exact rested_conclude at_ _
    · exact here h trivial

theorem rested_begin (at_ : w.tasks.get? t = some task) : (w.begin t task).Rested t := by
  have later (w₁ : World β) (h : w₁.tasks = w.tasks) {progress : Progress}
      (begun : Task.isBegun { task with progress } = true) :
      (w₁.continueAs t task progress).Rested t :=
    rested_resume (get?_setProgress (by rw [h, at_]) progress) begun
  unfold begin
  split
  · exact rested_beginWait at_ _ _ _
  · split
    · exact rested_of_progress? (progress?_of_get? (get?_endTask at_ .aborted)) trivial
    · exact rested_beginWait (w := w.holdFlag _ _) at_ _ _ _
  · exact rested_beginRequest at_ _ _ _ _ _ _
  · exact rested_beginRequest at_ _ _ _ _ _ _
  · exact later w rfl rfl
  · exact later w rfl rfl
  · exact later w rfl rfl
  · exact later _ (clears_confined.beginShutdown w _).apart.tasks rfl

end

/-- **After its turn a task waits for nothing that is there.** -/
theorem rested_stepTask (w : World β) (t : TaskId) : (w.stepTask t).Rested t := by
  unfold stepTask
  dsimp only
  split
  · rename_i missing
    intro progress h
    rw [progress?, missing] at h
    cases h
  · rename_i task at_
    split
    · rename_i isOver
      refine rested_of_progress? (progress?_of_get? at_) ?_
      rw [Task.isOver] at isOver
      split at isOver
      · rename_i h
        rw [h]
        trivial
      · rename_i h
        rw [h]
        trivial
      all_goals cases isOver
    · split
      · exact rested_of_progress? (progress?_of_get? (get?_endTask at_ .aborted)) trivial
      · split
        · rename_i begun
          exact rested_resume at_ begun
        · exact rested_begin at_

/-! ### Tasks that have begun -/

/-- A piece leaves a task that has begun as far as it came, or ends it. -/
theorem Piece.begun {t : TaskId} {w w' : World β} (h : Piece t w w') {task : Task}
    (at_ : w.tasks.get? t = some task) (begun : task.isBegun = true) :
    ∃ task', w'.tasks.get? t = some task' ∧
      (task'.progress = task.progress ∨ task'.isOver = true) := by
  have not_fresh {task₀ : Task} (at₀ : w.tasks.get? t = some task₀)
      (fresh : task₀.progress = .fresh) : False := by
    cases at_.symm.trans at₀
    rw [Task.isBegun, fresh] at begun
    cases begun
  cases h with
  | beside waits ready =>
    exact ⟨task, (congrArg (·.get? t) (congrArg Waits.tasks waits)).trans at_, Or.inl rfl⟩
  | addWaiter => exact ⟨task, at_, Or.inl rfl⟩
  | wait at₀ fresh => exact (not_fresh at₀ fresh).elim
  | waitFlag at₀ fresh => exact (not_fresh at₀ fresh).elim
  | pause at₀ fresh => exact (not_fresh at₀ fresh).elim
  | stop at₀ live ends => exact ⟨_, get?_endTask at₀ _, Or.inr (ends.isOver _ rfl)⟩

theorem begun_pieces {t : TaskId} {w w' : World β} (h : Pieces t w w') {task : Task}
    (at_ : w.tasks.get? t = some task) (begun : task.isBegun = true) :
    ∃ task', w'.tasks.get? t = some task' ∧
      (task'.progress = task.progress ∨ task'.isOver = true) := by
  induction h with
  | refl => exact ⟨task, at_, Or.inl rfl⟩
  | tail _ piece ih =>
    obtain ⟨task₁, at₁, came⟩ := ih
    have begun₁ : task₁.isBegun = true := by
      rcases came with same | past
      · rwa [Task.isBegun, same]
      · rw [Task.isOver] at past
        rw [Task.isBegun]
        split <;> simp_all
    obtain ⟨task₂, at₂, still | past⟩ := piece.begun at₁ begun₁
    · exact ⟨task₂, at₂, came.imp still.trans fun past => by rwa [Task.isOver, still]⟩
    · exact ⟨task₂, at₂, Or.inr past⟩

/-- **A turn leaves a task that has begun as far as it came, or ends it.** -/
theorem begun_stepTask {w : World β} {t : TaskId} {task : Task} (at_ : w.tasks.get? t = some task)
    (begun : task.isBegun = true) : ∃ task', (w.stepTask t).tasks.get? t = some task' ∧
      (task'.progress = task.progress ∨ task'.isOver = true) :=
  begun_pieces (pieces_stepTask w t) at_ begun

/-! ### What a turn comes to -/

/-- What a poll of a wait that has begun looks at, laid out. -/
theorem waitResult?_eq (w : World β) (slot : Slot) (ctx : Context) :
    w.waitResult? slot ctx =
      match w.slotReply? slot, w.err? ctx with
      | some p, _ => some (.ok p)
      | none, some e => some (.error e)
      | none, none => none := by
  unfold waitResult?
  cases w.slotReply? slot <;> cases w.err? ctx <;> rfl

section

variable {w : World β} {t : TaskId} {task : Task} {slot : Slot} {ctx : Context}

/-- A wait that has neither its reply nor the end of its context begins, and that is all. -/
theorem beginWait_of_open (unset : w.slotReply? slot = none) (going : w.err? ctx = none)
    (t : TaskId) (errand : Errand) :
    w.beginWait t errand slot ctx = w.setProgress t (.waiting slot ctx) := by
  have ongoing : (w.setProgress t (.waiting slot ctx)).err? ctx = none := going
  have nothing : (w.setProgress t (.waiting slot ctx)).waitResult? slot ctx = none := by
    rw [waitResult?_eq, ongoing, show (w.setProgress t _).slotReply? slot = none from unset]
  simp only [beginWait, ongoing, resumeWait, nothing]

/-- A wait that has its reply ends with it. -/
theorem resumeWait_of_reply {p : Payload} (set : w.slotReply? slot = some p) (t : TaskId)
    (errand : Errand) (ctx : Context) :
    w.resumeWait t errand slot ctx = w.conclude t (errand.reportWait (.ok p)) := by
  have result : w.waitResult? slot ctx = some (.ok p) := by rw [waitResult?_eq, set]
  simp only [resumeWait, result]

/-- One that has its reply when it begins ends at once. -/
theorem beginWait_of_reply (going : w.err? ctx = none) {p : Payload}
    (set : w.slotReply? slot = some p) (t : TaskId) (errand : Errand) :
    w.beginWait t errand slot ctx =
      (w.setProgress t (.waiting slot ctx)).conclude t (errand.reportWait (.ok p)) := by
  have ongoing : (w.setProgress t (.waiting slot ctx)).err? ctx = none := going
  have there : (w.setProgress t (.waiting slot ctx)).slotReply? slot = some p := set
  simp only [beginWait, ongoing, resumeWait_of_reply there]

theorem stepTask_eq (at_ : w.tasks.get? t = some task) (live : task.isOver = false)
    (kept : task.doomed = false) :
    w.stepTask t = if task.isBegun then (w.dismiss (.task t)).resume t task
      else (w.dismiss (.task t)).begin t task := by
  simp only [stepTask, show (w.dismiss (.task t)).tasks.get? t = some task from at_, live, kept,
    Bool.false_eq_true, if_false]

/-- The first turn of a task that is not given up. -/
theorem stepTask_fresh (at_ : w.tasks.get? t = some task) (kept : task.doomed = false)
    (fresh : task.progress = .fresh) : w.stepTask t = (w.dismiss (.task t)).begin t task := by
  have live : task.isOver = false := by rw [Task.isOver, fresh]
  have first : ¬task.isBegun = true := by simp [Task.isBegun, fresh]
  rw [stepTask_eq at_ live kept, if_neg first]

/-- Each later turn until it is over. -/
theorem stepTask_begun (at_ : w.tasks.get? t = some task) (kept : task.doomed = false)
    (live : task.isOver = false) (begun : task.isBegun = true) :
    w.stepTask t = (w.dismiss (.task t)).resume t task := by
  rw [stepTask_eq at_ live kept, if_pos begun]

/-- A task that is over does nothing in its turns. -/
theorem stepTask_over (at_ : w.tasks.get? t = some task) (past : task.isOver = true) :
    w.stepTask t = w.dismiss (.task t) := by
  simp only [stepTask, show (w.dismiss (.task t)).tasks.get? t = some task from at_, past, if_true]

/-- A task that is given up ends in its turn. -/
theorem stepTask_doomed (at_ : w.tasks.get? t = some task) (going : task.isOver = false)
    (doomed : task.doomed = true) :
    w.stepTask t = (w.dismiss (.task t)).endTask t .aborted := by
  simp only [stepTask, show (w.dismiss (.task t)).tasks.get? t = some task from at_, going, doomed,
    Bool.false_eq_true, if_false, if_true]

theorem progress?_stepTask_doomed (at_ : w.tasks.get? t = some task) (going : task.isOver = false)
    (doomed : task.doomed = true) : (w.stepTask t).progress? t = some .aborted := by
  rw [stepTask_doomed at_ going doomed]
  exact progress?_of_get? (get?_endTask (w := w.dismiss (.task t)) at_ .aborted)

/-- Each later turn of a wait. -/
theorem progress?_stepTask_waiting (at_ : w.tasks.get? t = some task) (kept : task.doomed = false)
    (waiting : task.progress = .waiting slot ctx) :
    (w.stepTask t).progress? t = some ((w.waitResult? slot ctx).elim (.waiting slot ctx) fun r =>
      .finished (task.errand.reportWait r)) := by
  have live : task.isOver = false := by rw [Task.isOver, waiting]
  have begun : task.isBegun = true := by rw [Task.isBegun, waiting]
  rw [stepTask_begun at_ kept live begun, resume, waiting]
  exact progress?_resumeWait (w := w.dismiss (.task t)) at_ waiting _

/-- The first turn of a wait for a waiter. -/
theorem progress?_stepTask_wait {v : WaiterId} (at_ : w.tasks.get? t = some task)
    (kept : task.doomed = false) (fresh : task.progress = .fresh)
    (errand : task.errand = .wait v ctx) :
    (w.stepTask t).progress? t =
      some (((w.err? ctx).map .error |>.or (w.waitResult? (.waiter v) ctx)).elim
        (.waiting (.waiter v) ctx) fun r => .finished (task.errand.reportWait r)) := by
  rw [stepTask_fresh at_ kept fresh, begin, errand]
  exact progress?_beginWait (w := w.dismiss (.task t)) at_ _ _ _

/-- A turn of a task that waits for the end of a context. -/
theorem progress?_stepTask_watch (at_ : w.tasks.get? t = some task) (kept : task.doomed = false)
    (watches : task.progress = .fresh ∧ task.errand = .watch ctx ∨ task.progress = .watching ctx) :
    (w.stepTask t).progress? t = some ((w.err? ctx).elim (.watching ctx) fun e =>
      .finished (.contextEnded e)) := by
  have ends {w : World β} {task : Task} (at_ : w.tasks.get? t = some task)
      (watching : task.progress = .watching ctx) :
      (w.resume t task).progress? t = some ((w.err? ctx).elim (.watching ctx) fun e =>
        .finished (.contextEnded e)) := by
    rw [resume, watching]
    dsimp only
    cases w.err? ctx with
    | none => exact (progress?_of_get? at_).trans (congrArg some watching)
    | some e => exact progress?_conclude at_ _
  rcases watches with ⟨fresh, errand⟩ | watching
  · rw [stepTask_fresh at_ kept fresh, begin, errand]
    exact ends (get?_setProgress (w := w.dismiss (.task t)) at_ _) rfl
  · have live : task.isOver = false := by rw [Task.isOver, watching]
    have begun : task.isBegun = true := by rw [Task.isBegun, watching]
    rw [stepTask_begun at_ kept live begun]
    exact ends (w := w.dismiss (.task t)) at_ watching

/-- A wait for a flag takes hold of it in its first turn. -/
theorem stepTask_waitFlag {scene : SceneId} {key : String} {board : Scene}
    (at_ : w.tasks.get? t = some task) (kept : task.doomed = false)
    (fresh : task.progress = .fresh) (errand : task.errand = .waitFlag scene key ctx)
    (found : w.scenes.get? scene = some board) :
    w.stepTask t = ((w.dismiss (.task t)).holdFlag scene key).beginWait t task.errand
      (.flag (board.flag key w.flags.next).slot) ctx := by
  rw [stepTask_fresh at_ kept fresh, begin]
  simp only [errand, show (w.dismiss (.task t)).scenes.get? scene = some board from found]
  rfl

/-- The first turn of a wait for a flag. -/
theorem progress?_stepTask_waitFlag {scene : SceneId} {key : String} {board : Scene}
    (at_ : w.tasks.get? t = some task) (kept : task.doomed = false)
    (fresh : task.progress = .fresh) (errand : task.errand = .waitFlag scene key ctx)
    (found : w.scenes.get? scene = some board) :
    (w.stepTask t).progress? t =
      some (((w.err? ctx).map .error |>.or
        (w.waitResult? (.flag (board.flag key w.flags.next).slot) ctx)).elim
          (.waiting (.flag (board.flag key w.flags.next).slot) ctx) fun r =>
            .finished (task.errand.reportWait r)) := by
  have begins := progress?_beginWait (w := (w.dismiss (.task t)).holdFlag scene key) (t := t) at_
    task.errand (.flag (board.flag key w.flags.next).slot) ctx
  have unheld : ((w.dismiss (.task t)).holdFlag scene key).waitResult?
      (.flag (board.flag key w.flags.next).slot) ctx =
      w.waitResult? (.flag (board.flag key w.flags.next).slot) ctx := by
    simp only [waitResult?, (spares_holdFlag (w.dismiss (.task t)) t scene key).slotReply?]
    rfl
  rw [unheld] at begins
  rw [stepTask_waitFlag at_ kept fresh errand found]
  exact begins

end

/-! ### Tasks -/

/-- A change leaves a task as far as it came, and a new one is yet to begin. -/
theorem Change.task {w : World β} {marks : List Mark} {side : Waits} (h : Change w marks side)
    {t : TaskId} {task' : Task} (at' : side.tasks.get? t = some task') :
    (∃ task, w.tasks.get? t = some task ∧ task'.errand = task.errand ∧
        task'.progress = task.progress) ∨
      (t = w.tasks.next ∧ task'.progress = .fresh) := by
  cases h with
  | spawn errand =>
    rw [Table.get?_add] at at'
    split at at'
    · rename_i ht
      cases at'
      exact Or.inr ⟨ht, rfl⟩
    · exact Or.inl ⟨task', at', rfl, rfl⟩
  | doom j =>
    rw [Table.get?_modify] at at'
    split at at'
    · obtain ⟨task, at_, rfl⟩ := Option.map_eq_some_iff.mp at'
      exact Or.inl ⟨task, at_, rfl, rfl⟩
    · exact Or.inl ⟨task', at', rfl, rfl⟩
  | nothing | woke | addWaiter | answer | addScene | refuse | write | derive | cancel | drop | pass =>
    exact Or.inl ⟨task', at', rfl, rfl⟩

/-- A task comes on in its own turns only; all else leaves it as it is or gives it up. -/
theorem Stir.task {w w' : World β} {marks : List Mark} (h : Stir w marks w') {t : TaskId}
    {task' : Task} (at' : w'.tasks.get? t = some task') :
    (∃ task, w.tasks.get? t = some task ∧ task'.errand = task.errand ∧
        task'.progress = task.progress) ∨
      (t = w.tasks.next ∧ task'.progress = .fresh) ∨ w' = w.stepTask t := by
  rcases h.cases with ⟨j, -, polled⟩ | change
  · by_cases hj : t = j
    · exact Or.inr (Or.inr (hj ▸ polled))
    · exact Or.inl ⟨task', (spares_stepTask w j).tasks t hj ▸ polled ▸ at', rfl, rfl⟩
  · exact (change.task at').imp id Or.inl

/-! ### Nothing is taken away -/

/-- There are at least as many waiters as before, and each task is still there with its errand. -/
structure Grows (w w' : World β) : Prop where
  waiters : w.waiters.size ≤ w'.waiters.size
  tasks : ∀ t task, w.tasks.get? t = some task →
    ∃ task', w'.tasks.get? t = some task' ∧ task'.errand = task.errand

namespace Grows

variable {w w₁ w₂ : World β}

theorem trans (h : Grows w w₁) (h' : Grows w₁ w₂) : Grows w w₂ := by
  refine ⟨Nat.le_trans h.waiters h'.waiters, fun t task at_ => ?_⟩
  obtain ⟨task₁, at₁, same⟩ := h.tasks t task at_
  obtain ⟨task₂, at₂, same'⟩ := h'.tasks t task₁ at₁
  exact ⟨task₂, at₂, same'.trans same⟩

theorem of_tasks (waiters : w.waiters.size ≤ w₁.waiters.size) (tasks : w₁.tasks = w.tasks) :
    Grows w w₁ :=
  ⟨waiters, fun _ task at_ => ⟨task, tasks ▸ at_, rfl⟩⟩

theorem of_eq (waiters : w₁.waiters = w.waiters) (tasks : w₁.tasks = w.tasks) : Grows w w₁ :=
  of_tasks (Nat.le_of_eq (by rw [waiters])) tasks

theorem refl (w : World β) : Grows w w := of_eq rfl rfl

theorem of_modify (waiters : w₁.waiters = w.waiters) {t : TaskId} {f : Task → Task}
    (tasks : w₁.tasks = w.tasks.modify t f) (same : ∀ task, (f task).errand = task.errand) :
    Grows w w₁ := by
  refine ⟨Nat.le_of_eq (by rw [waiters]), fun j task at_ => ?_⟩
  rw [tasks, Table.get?_modify, at_]
  split
  · exact ⟨f task, rfl, same task⟩
  · exact ⟨task, rfl, rfl⟩

theorem addWaiter (w : World β) : Grows w w.addWaiter.2 :=
  of_tasks (by rw [show w.addWaiter.2.waiters = w.waiters.add {} from rfl, Table.size_add]; omega) rfl

end Grows

theorem Piece.grows {t : TaskId} {w w' : World β} (h : Piece t w w') : Grows w w' := by
  cases h with
  | beside waits ready => exact .of_eq (congrArg Waits.waiters waits) (congrArg Waits.tasks waits)
  | addWaiter => exact .addWaiter w
  | wait at_ fresh h => exact .of_modify rfl rfl fun _ => rfl
  | waitFlag at_ fresh errand found => exact .of_modify rfl rfl fun _ => rfl
  | pause at_ fresh h => exact .of_modify rfl rfl fun _ => rfl
  | @stop task last at_ live ends =>
    have waits := waits_endTask at_ last
    exact .of_modify (congrArg Waits.waiters waits) (congrArg Waits.tasks waits) fun _ => rfl

theorem grows_pieces {t : TaskId} {w w' : World β} (h : Pieces t w w') : Grows w w' := by
  induction h with
  | refl => exact .refl w
  | tail _ piece ih => exact ih.trans piece.grows

/-- A task that there is after its turn was there before, with its errand. -/
theorem task_before_turn {w : World β} {t : TaskId} {task' : Task}
    (at' : (w.stepTask t).tasks.get? t = some task') :
    ∃ task, w.tasks.get? t = some task ∧ task'.errand = task.errand := by
  cases at_ : w.tasks.get? t with
  | none =>
    have idle : w.stepTask t = w.dismiss (.task t) := by
      simp only [stepTask, show (w.dismiss (.task t)).tasks.get? t = none from at_]
    rw [idle] at at'
    cases at_.symm.trans at'
  | some task =>
    obtain ⟨task₁, at₁, same⟩ := (grows_pieces (pieces_stepTask w t)).tasks t task at_
    cases at'.symm.trans at₁
    exact ⟨task, rfl, same⟩

theorem Stir.grows {w w' : World β} {marks : List Mark} (h : Stir w marks w') : Grows w w' := by
  rcases h.cases with ⟨t, -, rfl⟩ | change
  · exact grows_pieces (pieces_stepTask w t)
  generalize hside : w'.waits = side at change
  have waiters : w'.waiters = side.waiters := congrArg Waits.waiters hside
  have tasks : w'.tasks = side.tasks := congrArg Waits.tasks hside
  cases change with
  | addWaiter => exact .of_tasks (by rw [waiters, Table.size_add]; omega) tasks
  | answer known p => exact .of_tasks (Nat.le_of_eq (by rw [waiters, Table.set, Table.size_modify])) tasks
  | spawn errand =>
    refine ⟨Nat.le_of_eq (congrArg Table.size waiters.symm), fun t task at_ => ⟨task, ?_, rfl⟩⟩
    rw [tasks, Table.get?_add_of_get? at_]
  | doom t => exact .of_modify waiters tasks fun _ => rfl
  | nothing | woke | addScene | refuse | write | derive | cancel | drop | pass =>
    exact .of_eq waiters tasks

theorem Stirs.grows {w w' : World β} {log : List Mark} (h : Stirs w log w') : Grows w w' := by
  induction h with
  | refl => exact .refl w
  | tail _ s ih => exact ih.trans s.grows

/-- **A task that is over stays as it ended.** -/
theorem Stirs.progress?_kept {w w' : World β} {log : List Mark} (h : Stirs w log w') {t : TaskId}
    {task : Task} (at_ : w.tasks.get? t = some task) (past : task.isOver = true) :
    ∃ task', w'.tasks.get? t = some task' ∧ task'.progress = task.progress := by
  induction h with
  | refl => exact ⟨task, at_, rfl⟩
  | @tail log marks w₁ w₂ _ s ih =>
    obtain ⟨task₁, at₁, same⟩ := ih
    obtain ⟨task₂, at₂, -⟩ := s.grows.tasks t task₁ at₁
    refine ⟨task₂, at₂, ?_⟩
    rcases s.task at₂ with ⟨task₀, at₀, -, came⟩ | ⟨new, -⟩ | polled
    · rw [at₁] at at₀
      cases at₀
      exact came.trans same
    · exact absurd new (Table.ne_next_of_get? at₁)
    · have past₁ : task₁.isOver = true := by rwa [Task.isOver, same]
      rw [polled, stepTask_over at₁ past₁] at at₂
      cases at₁.symm.trans at₂
      exact same

end World

end EventMesh
