import EventMesh.Proofs.Mesh.Confined
import EventMesh.Proofs.Mesh.Loop

/-!
# What stirs those who wait

`Stir` lists once and for all what can happen on the side of a world that waiting depends on: slots
are made and filled, keys are written, scopes are derived, cancelled and dropped, the clock goes on,
tasks are spawned, given up and polled; all else that happens in a world is apart from it (`Apart`).
`Stirs w log w'` says that such stirs lead from `w` to `w'` and left the marks of the log. Stirs may
come in any order, so those of calls in progress, of callers and of tasks interleave in any way. Main
statements: a stir is the turn of a task or one of a few changes of what waiting depends on
(`Stir.cases`), performing any script stirs as listed (`busy_perform`), and so does every run
(`stirs_run`).
-/

namespace EventMesh.World

open Time

variable {β : Type}

/-- What those who wait depend on. -/
structure Waits where
  now : Instant
  waiters : Waiters
  flags : Flags
  scopes : Scopes
  scenes : Scenes
  tasks : Table .task Task

/-- The side of a world that waiting depends on. -/
def waits (w : World β) : Waits :=
  ⟨w.now, w.waiters, w.flags, w.scopes, w.scenes, w.tasks⟩

/-- Between the two worlds nothing changed that anyone waits for, and each task that was ready still
is. -/
structure Apart (w w' : World β) : Prop where
  waits : w'.waits = w.waits
  ready : ∀ t, .task t ∈ w.ready → .task t ∈ w'.ready

namespace Apart

variable {w w₁ w₂ : World β}

theorem trans (h : Apart w w₁) (h' : Apart w₁ w₂) : Apart w w₂ :=
  ⟨h'.waits.trans h.waits, fun t ht => h'.ready t (h.ready t ht)⟩

/-- A change of other fields is apart. -/
theorem of_eq (hw : w₁.waits = w.waits) (hr : w₁.ready = w.ready) : Apart w w₁ :=
  ⟨hw, fun t ht => by rwa [hr]⟩

/-- A change of other fields may go ahead of what is apart. -/
theorem after (h : Apart w₁ w₂) (hw : w₁.waits = w.waits) (hr : w₁.ready = w.ready) : Apart w w₂ :=
  (of_eq hw hr).trans h

theorem now (h : Apart w w₁) : w₁.now = w.now := congrArg Waits.now h.waits

theorem waiters (h : Apart w w₁) : w₁.waiters = w.waiters := congrArg Waits.waiters h.waits

theorem flags (h : Apart w w₁) : w₁.flags = w.flags := congrArg Waits.flags h.waits

theorem scopes (h : Apart w w₁) : w₁.scopes = w.scopes := congrArg Waits.scopes h.waits

theorem tasks (h : Apart w w₁) : w₁.tasks = w.tasks := congrArg Waits.tasks h.waits

end Apart

/-- Slots are looked up among waiters and flags alone. -/
theorem slotReply?_congr {w w' : World β} (waiters : w'.waiters = w.waiters)
    (flags : w'.flags = w.flags) (slot : Slot) : w'.slotReply? slot = w.slotReply? slot := by
  cases slot with
  | waiter v => rw [slotReply?, slotReply?, waiters]
  | flag f => rw [slotReply?, slotReply?, flags]

theorem Apart.slotReply? {w w' : World β} (h : Apart w w') (slot : Slot) :
    w'.slotReply? slot = w.slotReply? slot :=
  slotReply?_congr h.waiters h.flags slot

/-- A change of the mesh alone is apart. -/
theorem Confined.apart {w w' : World β} (h : Confined w w') : Apart w w' := by
  refine ⟨?_, h.ready⟩
  obtain ⟨_, _, _, _, rfl⟩ := h.only
  rfl

/-! ### What stirs -/

theorem waits_spawn (w : World β) (errand : Errand) :
    (w.spawn errand).2.waits = { w.waits with tasks := w.tasks.add { errand } } := by
  unfold spawn
  dsimp only
  rw [(confined_enlist _ _).apart.waits]
  split <;> rfl

theorem mem_ready_spawn (w : World β) (errand : Errand) (j : TaskId) :
    .task j ∈ (w.spawn errand).2.ready ↔ .task j ∈ w.ready ∨ j = w.tasks.next := by
  unfold spawn
  dsimp only
  rw [mem_enlist, Job.task.injEq]
  split <;> rfl

/-- A task is given up, and ready for that, unless it is over or unknown. -/
theorem abort_cases (w : World β) (t : TaskId) :
    w.abort t = w ∨ w.abort t =
      { w with tasks := w.tasks.modify t fun task => { task with doomed := true } }.enlist (.task t) := by
  unfold abort
  split
  · exact Or.inr rfl
  · exact Or.inl rfl

/-- A key is written and its flag raised if it was free; otherwise nothing happens. -/
theorem store_cases {w : World β} {scene : SceneId} {board : Scene}
    (found : w.scenes.get? scene = some board) (key : String) (p : Payload) :
    (∃ q, board.fetch? key = some q ∧ w.store scene key p = (.error (.sceneKeyExists key), w)) ∨
      board.fetch? key = none ∧ w.store scene key p = (.ok (), wake { w with
        flags := (w.flags.add {}).set (board.flag key w.flags.next).slot p
        scenes := w.scenes.modify scene (·.store key p w.flags.next) }) := by
  cases h : board.fetch? key with
  | none => exact Or.inr ⟨rfl, by simp only [store, found, h]; rfl⟩
  | some q => exact Or.inl ⟨q, rfl, by simp only [store, found, h]; rfl⟩

/-! ### Stirs -/

/-- What a stir may leave behind: what was set or written, and with which result, what became of a
scope, and what the clock did. -/
inductive Mark where
  | set (v : WaiterId) (p : Payload) (won : Bool)
  | stored (scene : SceneId) (key : String) (p : Payload) (r : Except EventError Unit)
  | derived (ctx : Context) (s : ScopeId)
  | cancelled (s : ScopeId)
  | dropped (s : ScopeId)
  | passed
  | woke

/-- What happens in one go. -/
inductive Stir (w : World β) : List Mark → World β → Prop
  | apart {w' : World β} (h : Apart w w') : Stir w [] w'
  | addWaiter : Stir w [] w.addWaiter.2
  | answer {v : WaiterId} (known : (w.waiters.get? v).isSome) (p : Payload) :
      Stir w [.set v p (w.answer v p).1] (w.answer v p).2
  | addScene : Stir w [] w.addScene.2
  | store {scene : SceneId} (known : (w.scenes.get? scene).isSome) (key : String) (p : Payload) :
      Stir w [.stored scene key p (w.store scene key p).1] (w.store scene key p).2
  | derive (ctx : Context) :
      Stir w [.derived ctx (w.deriveContext ctx).1.2] (w.deriveContext ctx).2
  | cancel (s : ScopeId) : Stir w [.cancelled s] (w.cancelScope s)
  | drop (s : ScopeId) : Stir w [.dropped s] (w.dropScope s)
  | pass (nanos : Nat) : Stir w [.passed] { w with clock := w.clock.advance nanos }
  | wake : Stir w [.woke] w.wake
  | spawn (errand : Errand) : Stir w [] (w.spawn errand).2
  | abort (t : TaskId) : Stir w [] (w.abort t)
  | poll (t : TaskId) : Stir w [] (w.stepTask t)

/-- Stirs one after the other, and all their marks. -/
inductive Stirs (w : World β) : List Mark → World β → Prop
  | refl : Stirs w [] w
  | tail {log marks : List Mark} {w₁ w₂ : World β} (h : Stirs w log w₁) (s : Stir w₁ marks w₂) :
      Stirs w (log ++ marks) w₂

theorem Stirs.trans {w w₁ w₂ : World β} {log log' : List Mark} (h : Stirs w log w₁)
    (h' : Stirs w₁ log' w₂) : Stirs w (log ++ log') w₂ := by
  induction h' with
  | refl => rwa [List.append_nil]
  | tail _ s ih =>
    rw [← List.append_assoc]
    exact ih.tail s

/-- What a stir that is no poll makes of the side that waiting depends on. -/
inductive Change (w : World β) : List Mark → Waits → Prop
  | nothing : Change w [] w.waits
  | woke : Change w [.woke] w.waits
  | addWaiter : Change w [] { w.waits with waiters := w.waiters.add {} }
  | answer {v : WaiterId} (known : (w.waiters.get? v).isSome) (p : Payload) :
      Change w [.set v p (!w.waiters.isSet v)] { w.waits with waiters := w.waiters.set v p }
  | addScene : Change w [] { w.waits with scenes := w.scenes.add {} }
  | refuse (scene : SceneId) (key : String) (p : Payload) :
      Change w [.stored scene key p (.error (.sceneKeyExists key))] w.waits
  | write {scene : SceneId} {board : Scene} (found : w.scenes.get? scene = some board)
      {key : String} (free : board.fetch? key = none) (p : Payload) :
      Change w [.stored scene key p (.ok ())] { w.waits with
        flags := (w.flags.add {}).set (board.flag key w.flags.next).slot p
        scenes := w.scenes.modify scene (·.store key p w.flags.next) }
  | derive (ctx : Context) : Change w [.derived ctx w.scopes.next]
      { w.waits with scopes := (w.scopes.derive ctx.scope).1 }
  | cancel (s : ScopeId) : Change w [.cancelled s] { w.waits with scopes := w.scopes.cancel s }
  | drop (s : ScopeId) : Change w [.dropped s] { w.waits with scopes := w.scopes.drop s }
  | pass (nanos : Nat) : Change w [.passed] { w.waits with now := (w.clock.advance nanos).mono }
  | spawn (errand : Errand) : Change w [] { w.waits with tasks := w.tasks.add { errand } }
  | doom (t : TaskId) : Change w [] { w.waits with
      tasks := w.tasks.modify t fun task => { task with doomed := true } }

/-- **What a stir comes to** for those who wait: the turn of a task, or one of the changes. -/
theorem Stir.cases {w w' : World β} {marks : List Mark} (h : Stir w marks w') :
    (∃ t, marks = [] ∧ w' = w.stepTask t) ∨ Change w marks w'.waits := by
  have woken (w : World β) : w.wake.waits = w.waits := (confined_wake w).apart.waits
  cases h with
  | poll t => exact Or.inl ⟨t, rfl, rfl⟩
  | apart h => exact Or.inr (h.waits ▸ .nothing)
  | addWaiter => exact Or.inr .addWaiter
  | answer known p =>
    rw [World.answer, woken]
    exact Or.inr (.answer known p)
  | addScene => exact Or.inr .addScene
  | store known key p =>
    obtain ⟨board, found⟩ := Option.isSome_iff_exists.mp known
    rcases store_cases found key p with ⟨q, -, stored⟩ | ⟨free, stored⟩
    · rw [stored]
      exact Or.inr (.refuse _ key p)
    · rw [stored, woken]
      exact Or.inr (.write found free p)
  | derive ctx =>
    rw [show (w.deriveContext ctx).1.2 = w.scopes.next from Scopes.derive_snd w.scopes ctx.scope]
    exact Or.inr (.derive ctx)
  | cancel s =>
    rw [World.cancelScope, woken]
    exact Or.inr (.cancel s)
  | drop s => exact Or.inr (.drop s)
  | pass nanos => exact Or.inr (.pass nanos)
  | wake =>
    rw [woken]
    exact Or.inr .woke
  | spawn errand =>
    rw [waits_spawn]
    exact Or.inr (.spawn errand)
  | abort t =>
    rcases abort_cases w t with aborted | aborted
    · rw [aborted]
      exact Or.inr .nothing
    · rw [aborted, (confined_enlist _ _).apart.waits]
      exact Or.inr (.doom t)

/-- Stirs while the clock stands. -/
def Busy (w w' : World β) : Prop := ∃ log, Stirs w log w' ∧ .passed ∉ log

namespace Busy

variable {w w₁ w₂ : World β}

theorem refl (w : World β) : Busy w w := ⟨[], .refl, by simp⟩

theorem trans (h : Busy w w₁) (h' : Busy w₁ w₂) : Busy w w₂ := by
  obtain ⟨log, s, quiet⟩ := h
  obtain ⟨log', s', quiet'⟩ := h'
  exact ⟨log ++ log', s.trans s', by simp [quiet, quiet']⟩

theorem single {marks : List Mark} (s : Stir w marks w₁) (quiet : .passed ∉ marks) : Busy w w₁ :=
  ⟨[] ++ marks, Stirs.refl.tail s, by simpa using quiet⟩

theorem apart (h : Apart w w₁) : Busy w w₁ := single (.apart h) (by simp)

theorem confined (h : Confined w w₁) : Busy w w₁ := apart h.apart

/-- What is apart may go ahead. -/
theorem after (h : Busy w₁ w₂) (ahead : Apart w w₁) : Busy w w₂ := (apart ahead).trans h

end Busy

/-! ### Scripts -/

theorem busy_answer (w : World β) (v : WaiterId) (p : Payload) : Busy w (w.answer v p).2 := by
  cases known : w.waiters.get? v with
  | none =>
    have same : w.waiters.set v p = w.waiters := Table.modify_eq_self known _
    refine .apart ((confined_wake { w with waiters := w.waiters.set v p }).apart.after ?_ rfl)
    simp only [waits, same]
  | some waiter => exact .single (.answer (by rw [known]; rfl) p) (by simp)

theorem busy_store (w : World β) (scene : SceneId) (key : String) (p : Payload) :
    Busy w (w.store scene key p).2 := by
  cases known : w.scenes.get? scene with
  | none =>
    simp only [store, known]
    exact .refl w
  | some board => exact .single (.store (by rw [known]; rfl) key p) (by simp)

theorem busy_abort (w : World β) (t : TaskId) : Busy w (w.abort t) := .single (.abort t) (by simp)

theorem busy_spawn (w : World β) (errand : Errand) : Busy w (w.spawn errand).2 :=
  .single (.spawn errand) (by simp)

theorem busy_cancelReminder (w : World β) (r : ReminderId) : Busy w (w.cancelReminder r) := by
  unfold cancelReminder
  split
  · exact .refl w
  · dsimp only
    split
    · exact .apart (.of_eq rfl rfl)
    · exact (busy_abort _ _).after (.of_eq rfl rfl)

theorem busy_attach (w : World β) (r : ReminderId) (t : TaskId) : Busy w (w.attach r t) := by
  unfold attach
  split
  · exact busy_abort w t
  · exact .apart (.of_eq rfl rfl)

theorem busy_emitAfter (w : World β) (outlet : Outlet) (delay : Duration) (e : Event) :
    Busy w (w.emitAfter outlet delay e).2 := by
  cases outlet with
  | cell mesh key id generation =>
    have spawned := busy_spawn w.addReminder.2 (.remind key w.addReminder.1 delay e)
    exact (spawned.trans (busy_attach _ w.addReminder.1 _)).after (.of_eq rfl rfl)
  | bench bench id => exact .apart (.of_eq rfl rfl)

theorem busy_startWith (w : World β) (mesh : MeshId) (id : CellId) (seed : β)
    {firstCall : Outlet → World β → β × Outcome × World β}
    (h : ∀ outlet w, Busy w (firstCall outlet w).2.2) :
    Busy w (w.startWith mesh id seed firstCall).2 := by
  unfold startWith
  split
  · exact .refl w
  · exact ((h _ _).trans (.confined (confined_letIn _ _ _ _ _ _))).after
      (confined_conceive w mesh id seed).apart

/-- **Performing any script stirs as listed.** -/
theorem busy_perform (s : Script β) (w : World β) : Busy w (perform s w).2.2 := by
  induction s generalizing w with
  | finish next outcome => exact .refl w
  | survey k ih => exact ih _ w
  | build values k ih => exact (ih _ _).after (.of_eq rfl rfl)
  | create topic values scene k ih => exact (ih _ _).after (.of_eq rfl rfl)
  | emit outlet event k ih => exact (ih _ _).after (carries_confined.emit w outlet trivial).apart
  | emitTo outlet target event k ih => exact (ih _ _).after (carries_confined.emitTo w outlet target trivial).apart
  | emitAfter outlet delay event k ih => exact (busy_emitAfter w outlet delay event).trans (ih _ _)
  | cancelReminder reminder k ih => exact (busy_cancelReminder w reminder).trans (ih _)
  | answer waiter reply k ih => exact (busy_answer w waiter reply).trans (ih _ _)
  | store scene key payload k ih => exact (busy_store w scene key payload).trans (ih _ _)
  | start mesh id seed init k ihInit ih =>
    exact (busy_startWith w mesh id seed fun outlet w => ihInit outlet w).trans (ih _ _)
  | stopMesh mesh k ih => exact (ih _).after (clears_confined.beginShutdown w mesh).apart

/-! ### Turns of cells -/

theorem tracks_busy : Tracks fun (w : World β) _ w' _ => Busy w w' where
  trans := Busy.trans
  work _ _ := .confined (confined_modifyCell _ _ _)
  leave _ _ := .confined ((confined_modifyCell _ _ _).trans (clears_confined.deregister _ _))
  dismiss _ := .confined (confined_dismiss_cell _ _)
  wake w _ := .confined (confined_wake w)
  perform s w _ := busy_perform s w

variable [Behavior β]

theorem busy_stepCell (w : World β) (key : CellKey) : Busy w (w.stepCell key) :=
  tracks_busy.stepCell w (show atRest key = .idle from rfl)

/-! ### Runs -/

/-- Every move but the passing of time keeps the world busy. -/
theorem busy_act (w : World β) (m : Move β) (h : ∀ nanos, m ≠ .pass nanos) : Busy w (w.act m) := by
  cases m with
  | openMesh name requestTimeout => exact .confined (confined_openMesh w name requestTimeout)
  | share mesh => exact .confined (confined_modifyMesh w mesh _)
  | release mesh => exact .confined (clears_confined.release w mesh)
  | start mesh id seed => exact busy_startWith w mesh id seed fun _ w => busy_perform _ w
  | stopCell mesh id => exact .confined (clears_confined.stopCell w mesh id)
  | subscribe mesh emitter ids => exact .confined (clears_confined.subscribe w mesh emitter ids)
  | unsubscribe mesh emitter ids => exact .confined (clears_confined.unsubscribe w mesh emitter ids)
  | emit mesh target e => exact .confined (carries_confined.deliver w mesh target trivial)
  | emitNew mesh target topic values =>
    exact .apart ((carries_confined.deliver _ mesh target trivial).apart.after rfl rfl)
  | spawn errand =>
    rcases act_spawn w errand with ⟨-, same⟩ | ⟨-, spawned⟩
    · rw [same]
      exact .refl w
    · rw [spawned]
      exact busy_spawn w errand
  | abort t => exact busy_abort w t
  | newReminder => exact .apart (.of_eq rfl rfl)
  | attach r t => exact busy_attach w r t
  | cancelReminder r => exact busy_cancelReminder w r
  | newWaiter => exact .single .addWaiter (by simp)
  | answer waiter p => exact busy_answer w waiter p
  | newScene => exact .single .addScene (by simp)
  | store scene key p => exact busy_store w scene key p
  | derive ctx => exact .single (.derive ctx) (by simp)
  | cancelScope s => exact .single (.cancel s) (by simp)
  | pass nanos => exact absurd rfl (h nanos)
  | jump nanos => exact .apart (.of_eq rfl rfl)
  | wake => exact .single .wake (by simp)
  | turn j =>
    cases j with
    | cell key => exact busy_stepCell w key
    | task t => exact .single (.poll t) (by simp)

/-- Every run stirs as listed. -/
theorem stirs_run (w : World β) (moves : List (Move β)) : ∃ log, Stirs w log (w.run moves) := by
  induction moves generalizing w with
  | nil => exact ⟨[], .refl⟩
  | cons m moves ih =>
    obtain ⟨rest, later⟩ := ih (w.act m)
    by_cases h : ∃ nanos, m = .pass nanos
    · obtain ⟨nanos, rfl⟩ := h
      exact ⟨_, (Stirs.refl.tail (.pass nanos)).trans later⟩
    · obtain ⟨log, first, -⟩ := busy_act w m fun nanos hm => h ⟨nanos, hm⟩
      exact ⟨log ++ rest, first.trans later⟩

end EventMesh.World
