import EventMesh.Mesh.Turn

/-!
# Changes beside the mesh

Much of what happens in a world touches no mesh and no incarnation: clocks go on, payloads and events
are made, waiters are set, tasks and reminders come and go. `Aside w w'` says that nothing else
happened between `w` and `w'`; every invariant of meshes and cells survives such a change.
-/

namespace EventMesh.World

variable {β : Type}

/-- Between the two worlds no mesh and no incarnation changed, and the same incarnations are ready.
-/
structure Aside (w w' : World β) : Prop where
  cells : w'.cells = w.cells
  meshes : w'.meshes = w.meshes
  ready : ∀ key, .cell key ∈ w'.ready ↔ .cell key ∈ w.ready

namespace Aside

variable {w w₁ w₂ : World β}

theorem refl (w : World β) : Aside w w := ⟨rfl, rfl, fun _ => Iff.rfl⟩

theorem trans (h : Aside w w₁) (h' : Aside w₁ w₂) : Aside w w₂ :=
  ⟨h'.cells.trans h.cells, h'.meshes.trans h.meshes, fun key => (h'.ready key).trans (h.ready key)⟩

/-- A change of other fields is aside. -/
theorem of_eq (hc : w₁.cells = w.cells) (hm : w₁.meshes = w.meshes) (hr : w₁.ready = w.ready) :
    Aside w w₁ :=
  ⟨hc, hm, fun key => by rw [hr]⟩

/-- A change of other fields may go ahead of what is aside. -/
theorem after (h : Aside w₁ w₂) (hc : w₁.cells = w.cells) (hm : w₁.meshes = w.meshes)
    (hr : w₁.ready = w.ready) : Aside w w₂ :=
  (of_eq hc hm hr).trans h

end Aside

/-! ### Ready tasks -/

theorem enlist_cells (w : World β) (j : Job) : (w.enlist j).cells = w.cells := by
  unfold enlist; split <;> rfl

theorem enlist_meshes (w : World β) (j : Job) : (w.enlist j).meshes = w.meshes := by
  unfold enlist; split <;> rfl

theorem aside_enlist_task (w : World β) (t : TaskId) : Aside w (w.enlist (.task t)) := by
  refine ⟨enlist_cells w _, enlist_meshes w _, fun key => ?_⟩
  rw [mem_enlist]
  simp

theorem aside_dismiss_task (w : World β) (t : TaskId) : Aside w (w.dismiss (.task t)) := by
  refine ⟨rfl, rfl, fun key => ?_⟩
  exact List.mem_erase_of_ne (by simp)

theorem aside_wake (w : World β) : Aside w w.wake := by
  have fold : ∀ (ts : List TaskId) (w : World β),
      Aside w (ts.foldl (fun w t => w.enlist (.task t)) w) := by
    intro ts
    induction ts with
    | nil => exact fun w => .refl w
    | cons t ts ih => exact fun w => (aside_enlist_task w t).trans (ih _)
  exact fold _ w

/-! ### Waiters, scenes, reminders and tasks -/

theorem aside_answer (w : World β) (waiter : WaiterId) (p : Payload) :
    Aside w (w.answer waiter p).2 :=
  (aside_wake _).after rfl rfl rfl

theorem aside_raise (w : World β) (f : FlagId) (p : Payload) : Aside w (w.raise f p) :=
  (aside_wake _).after rfl rfl rfl

theorem aside_cancelScope (w : World β) (s : ScopeId) : Aside w (w.cancelScope s) :=
  (aside_wake _).after rfl rfl rfl

theorem aside_store (w : World β) (scene : SceneId) (key : String) (p : Payload) :
    Aside w (w.store scene key p).2 := by
  unfold store
  split
  · exact .refl w
  · split
    · exact .refl w
    · exact (aside_raise _ _ _).after rfl rfl rfl

theorem aside_abort (w : World β) (t : TaskId) : Aside w (w.abort t) := by
  unfold abort
  split
  · exact (aside_enlist_task _ t).after rfl rfl rfl
  · exact .refl w

theorem aside_cancelReminder (w : World β) (r : ReminderId) : Aside w (w.cancelReminder r) := by
  unfold cancelReminder
  split
  · exact .refl w
  · dsimp only
    split
    · exact .of_eq rfl rfl rfl
    · exact (aside_abort _ _).after rfl rfl rfl

theorem aside_attach (w : World β) (r : ReminderId) (t : TaskId) : Aside w (w.attach r t) := by
  unfold attach
  split
  · exact aside_abort w t
  · exact .of_eq rfl rfl rfl

/-- A task that holds no mesh. -/
theorem aside_spawn (w : World β) (errand : Errand) (h : errand.holds? = none) :
    Aside w (w.spawn errand).2 := by
  simp only [spawn, h]
  exact (aside_enlist_task _ _).after rfl rfl rfl

theorem aside_emitAfter (w : World β) (outlet : Outlet) (delay : Time.Duration) (e : Event) :
    Aside w (w.emitAfter outlet delay e).2 := by
  cases outlet with
  | cell mesh key id generation =>
    have spawned := aside_spawn w.addReminder.2 (.remind key w.addReminder.1 delay e) rfl
    exact (spawned.trans (aside_attach _ _ _)).after rfl rfl rfl
  | bench bench id => exact .of_eq rfl rfl rfl

theorem aside_record (w : World β) (bench : BenchId) (f : Bench β → Bench β) :
    Aside w (w.record bench f).2 := by
  unfold record
  split
  · exact .refl w
  · exact .of_eq rfl rfl rfl

end EventMesh.World
