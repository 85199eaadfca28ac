import EventMesh.Proofs.Mesh.Parts

/-!
# Holding meshes

A mesh that nobody holds is gone (`IsGone`). `Frugal w w'` says that between `w` and `w'` nobody came
to hold a mesh that was gone, and that no reminder changed. Main statements: emissions, starts and
stops are frugal (`carries_frugal`, `clears_frugal`), and so is the turn of a task
(`frugal_stepTask`); a task that is spawned, or another holder, has to come by a mesh that somebody
holds (`frugal_spawn`, `frugal_hold`).
-/

namespace EventMesh.World

open Time

variable {β : Type}

/-- Whether the last holder of a mesh let go of it. -/
def IsGone (w : World β) (mesh : MeshId) : Prop :=
  ∃ m, w.meshes.get? mesh = some m ∧ m.isAlive = false

/-- No reminder changes, and nobody comes to hold a mesh that is gone. -/
structure Frugal (w w' : World β) : Prop where
  reminders : w'.reminders = w.reminders
  gone : ∀ mesh, w.IsGone mesh → w'.IsGone mesh

namespace Frugal

variable {w w₁ w₂ : World β}

theorem of_meshes (reminders : w₁.reminders = w.reminders) (meshes : w₁.meshes = w.meshes) :
    Frugal w w₁ := by
  refine ⟨reminders, fun mesh gone => ?_⟩
  rwa [IsGone, meshes]

theorem refl (w : World β) : Frugal w w := of_meshes rfl rfl

theorem trans (h : Frugal w w₁) (h' : Frugal w₁ w₂) : Frugal w w₂ :=
  ⟨h'.reminders.trans h.reminders, fun mesh gone => h'.gone mesh (h.gone mesh gone)⟩

/-- A change of other fields may go ahead. -/
theorem after (h : Frugal w₁ w₂) (reminders : w₁.reminders = w.reminders)
    (meshes : w₁.meshes = w.meshes) : Frugal w w₂ :=
  (of_meshes reminders meshes).trans h

end Frugal

/-! ### Parts -/

/-- A mesh with no more holders than before. -/
theorem frugal_modifyMesh (w : World β) (mesh : MeshId) {f : Mesh → Mesh}
    (h : ∀ m, (f m).holders ≤ m.holders) : Frugal w (w.modifyMesh mesh f) := by
  refine ⟨rfl, fun j gone => ?_⟩
  obtain ⟨m, hm, dead⟩ := gone
  unfold IsGone
  rw [modifyMesh, Table.get?_modify, hm]
  split
  · refine ⟨f m, rfl, ?_⟩
    have fewer := h m
    simp only [Mesh.isAlive, gt_iff_lt, decide_eq_false_iff_not] at dead ⊢
    omega
  · exact ⟨m, rfl, dead⟩

theorem frugal_enlist (w : World β) (j : Job) : Frugal w (w.enlist j) := by
  unfold enlist
  split
  · exact .refl w
  · exact .of_meshes rfl rfl

theorem frugal_record (w : World β) (bench : BenchId) (f : Bench β → Bench β) :
    Frugal w (w.record bench f).2 := by
  unfold record
  split
  · exact .refl w
  · exact .of_meshes rfl rfl

/-- One more hold on a mesh that somebody holds. -/
theorem frugal_hold {w : World β} {mesh : MeshId} (held : ¬ w.IsGone mesh) :
    Frugal w (w.hold mesh) := by
  refine ⟨rfl, fun j gone => ?_⟩
  have other : mesh ≠ j := by
    rintro rfl
    exact held gone
  obtain ⟨m, hm, dead⟩ := gone
  refine ⟨m, ?_, dead⟩
  rw [hold, modifyMesh, Table.get?_modify, if_neg other, hm]

theorem frugal_openMesh (w : World β) (name : String) (requestTimeout : Duration) :
    Frugal w (w.openMesh name requestTimeout).2 := by
  refine ⟨rfl, fun mesh gone => ?_⟩
  obtain ⟨m, hm, dead⟩ := gone
  exact ⟨m, Table.get?_add_of_get? hm _, dead⟩

theorem frugal_spawn {w : World β} {errand : Errand}
    (held : ∀ mesh, errand.holds? = some mesh → ¬ w.IsGone mesh) :
    Frugal w (w.spawn errand).2 := by
  unfold spawn
  dsimp only
  split
  · exact (frugal_enlist _ _).after rfl rfl
  · rename_i mesh holds
    have more : Frugal { w with tasks := w.tasks.add { errand } }
        (World.hold { w with tasks := w.tasks.add { errand } } mesh) :=
      frugal_hold (held mesh holds)
    exact (more.trans (frugal_enlist _ _)).after rfl rfl

/-! ### Wholes -/

/-- **Sending events** is frugal. -/
theorem carries_frugal : Carries (Frugal (β := β)) fun _ => True where
  refl := Frugal.refl
  trans := Frugal.trans
  accept _ _ _ _ _ _ _ := (frugal_enlist _ _).after rfl rfl
  record := frugal_record

/-- **Taking cells and routes out of meshes** is frugal. -/
theorem clears_frugal : Clears (Frugal (β := β)) where
  refl := Frugal.refl
  trans := Frugal.trans
  modifyMesh := frugal_modifyMesh
  close _ _ := .of_meshes rfl rfl
  enlist := frugal_enlist

theorem polls_frugal : Polls (Frugal (β := β)) fun _ => True where
  toCarries := carries_frugal
  dismiss _ _ := .of_meshes rfl rfl
  modifyTask _ _ _ _ := .of_meshes rfl rfl
  holdFlag _ _ _ := .of_meshes rfl rfl
  unholdFlag _ _ _ := .of_meshes rfl rfl
  request _ _ _ := .of_meshes rfl rfl
  release := clears_frugal.release
  beginShutdown := clears_frugal.beginShutdown

theorem frugal_conceive (w : World β) (mesh : MeshId) (id : CellId) (seed : β) :
    Frugal w (w.conceive mesh id seed).2.2 :=
  (clears_frugal.sameHolders w mesh).trans (.of_meshes rfl rfl)

theorem frugal_letIn (w : World β) (mesh : MeshId) (id : CellId) (key : CellKey) (resident : β)
    (outcome : Outcome) : Frugal w (w.letIn mesh id key resident outcome).2 := by
  rcases letIn_cases w mesh id key resident outcome with h | ⟨-, -, h⟩
  · rw [h]
    exact .of_meshes rfl rfl
  · rw [h, register]
    exact ((clears_frugal.sameHolders _ mesh).trans (frugal_enlist _ _)).after rfl rfl

/-- **The turn of a task changes no reminder** and comes to hold no mesh. -/
theorem frugal_stepTask (w : World β) (t : TaskId) : Frugal w (w.stepTask t) :=
  polls_frugal.stepTask w t (fun _ _ _ _ _ _ => trivial) fun _ _ _ _ => asks_any w _

end EventMesh.World
