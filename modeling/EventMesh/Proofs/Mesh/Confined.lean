import EventMesh.Proofs.Mesh.Parts

/-!
# Changes of the mesh alone

Routing, starting and stopping touch meshes, incarnations and benches, and make jobs ready, and leave
all else as it was: the clock, slots, scopes, scenes, reminders and tasks. `Confined w w'` says that
nothing else happened between `w` and `w'`. Main statements: emissions are confined
(`carries_confined`), and so are all changes of registries and routes (`clears_confined`,
`confined_letIn`).
-/

namespace EventMesh.World

variable {β : Type}

/-- Between the two worlds nothing changed but meshes, incarnations, benches and which jobs are ready,
and each task that was ready still is. -/
structure Confined (w w' : World β) : Prop where
  only : ∃ cells meshes benches ready, w' = { w with cells, meshes, benches, ready }
  ready : ∀ t, .task t ∈ w.ready → .task t ∈ w'.ready

namespace Confined

variable {w w₁ w₂ : World β}

theorem refl (w : World β) : Confined w w := ⟨⟨_, _, _, _, rfl⟩, fun _ h => h⟩

theorem trans (h : Confined w w₁) (h' : Confined w₁ w₂) : Confined w w₂ := by
  refine ⟨?_, fun t ht => h'.ready t (h.ready t ht)⟩
  obtain ⟨_, _, _, _, rfl⟩ := h.only
  obtain ⟨_, _, _, _, rfl⟩ := h'.only
  exact ⟨_, _, _, _, rfl⟩

end Confined

/-! ### Parts -/

theorem confined_enlist (w : World β) (j : Job) : Confined w (w.enlist j) := by
  refine ⟨?_, fun _ ht => (mem_enlist w _ j).mpr (Or.inl ht)⟩
  unfold enlist
  split
  · exact ⟨_, _, _, _, rfl⟩
  · exact ⟨_, _, _, _, rfl⟩

/-- Taking a cell off the list of the ready jobs. -/
theorem confined_dismiss_cell (w : World β) (key : CellKey) : Confined w (w.dismiss (.cell key)) :=
  ⟨⟨_, _, _, _, rfl⟩, fun _ ht => (List.mem_erase_of_ne (by simp)).mpr ht⟩

theorem confined_modifyMesh (w : World β) (mesh : MeshId) (f : Mesh → Mesh) :
    Confined w (w.modifyMesh mesh f) :=
  ⟨⟨_, _, _, _, rfl⟩, fun _ h => h⟩

theorem confined_modifyCell (w : World β) (key : CellKey) (f : Cell β → Cell β) :
    Confined w (w.modifyCell key f) :=
  ⟨⟨_, _, _, _, rfl⟩, fun _ h => h⟩

theorem confined_accept (w : World β) (key : CellKey) (e : Event) : Confined w (w.accept key e) :=
  (confined_modifyCell w key _).trans (confined_enlist _ _)

theorem confined_record (w : World β) (bench : BenchId) (f : Bench β → Bench β) :
    Confined w (w.record bench f).2 := by
  unfold record
  split
  · exact .refl w
  · exact ⟨⟨_, _, _, _, rfl⟩, fun _ h => h⟩

/-! ### Wholes -/

/-- **Sending events** is confined. -/
theorem carries_confined : Carries (Confined (β := β)) fun _ => True where
  refl := Confined.refl
  trans := Confined.trans
  accept w _ _ key _ e _ := confined_accept w key e
  record := confined_record

/-- **Taking cells and routes out of meshes** is confined. -/
theorem clears_confined : Clears (Confined (β := β)) where
  refl := Confined.refl
  trans := Confined.trans
  modifyMesh w mesh f _ := confined_modifyMesh w mesh f
  close w key := confined_modifyCell w key _
  enlist := confined_enlist

theorem confined_wake (w : World β) : Confined w w.wake := clears_confined.wake w

theorem confined_openMesh (w : World β) (name : String) (requestTimeout : Time.Duration) :
    Confined w (w.openMesh name requestTimeout).2 :=
  ⟨⟨_, _, _, _, rfl⟩, fun _ h => h⟩

theorem confined_conceive (w : World β) (mesh : MeshId) (id : CellId) (seed : β) :
    Confined w (w.conceive mesh id seed).2.2 :=
  ⟨⟨_, _, _, _, rfl⟩, fun _ h => h⟩

theorem confined_register (w : World β) (mesh : MeshId) (id : CellId) (key : CellKey) :
    Confined w (w.register mesh id key) :=
  ((confined_modifyCell w key _).trans (confined_modifyMesh _ mesh _)).trans (confined_enlist _ _)

theorem confined_letIn (w : World β) (mesh : MeshId) (id : CellId) (key : CellKey) (resident : β)
    (outcome : Outcome) : Confined w (w.letIn mesh id key resident outcome).2 := by
  have judged := confined_modifyCell w key (·.after (.init outcome) resident)
  rcases letIn_cases w mesh id key resident outcome with h | ⟨-, -, h⟩
  · rw [h]
    exact judged.trans (confined_modifyCell _ key _)
  · rw [h]
    exact judged.trans (confined_register _ mesh id key)

end EventMesh.World
