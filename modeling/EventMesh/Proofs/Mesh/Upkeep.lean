import EventMesh.Proofs.Mesh.Registry

/-!
# The upkeep of meshes

What one step does to a mesh that is there is listed once and for all in `Mesh.Befell`, as
`Cell.Befell` does for incarnations: its holders and generations are counted, a cell enters or leaves
it, its routes change, it is shut down or its last holder lets go of it. Main statement: every step of
every loop and every deed of anybody does one of these to each mesh (`upkept_step`).
-/

namespace EventMesh

namespace Mesh

/-- What one step does to a mesh, in a world where the given loops are over. -/
inductive Befell (finished : CellKey → Bool) (m : Mesh) : Mesh → Prop
  | spared : Befell finished m m
  /-- A generation is given out. -/
  | numbered : Befell finished m { m with nextGeneration := m.nextGeneration + 1 }
  | held : Befell finished m { m with holders := m.holders + 1 }
  /-- A holder lets go who is not the last. -/
  | released (others : 0 < m.holders - 1) : Befell finished m { m with holders := m.holders - 1 }
  /-- The last holder lets go. -/
  | deserted (last : m.holders - 1 = 0) :
      Befell finished m { m with holders := m.holders - 1, registry := [], routes := [] }
  | shutDown :
      Befell finished m { m with stopping := true, loops := [], registry := [], routes := [] }
  | entered {id : CellId} (key : CellKey) (going : m.stopping = false)
      (free : Dict.get? m.registry id = none) :
      Befell finished m { m with
        registry := Dict.insert m.registry id key
        loops := m.loops.filter (!finished ·) ++ [key] }
  | left {id : CellId} {key : CellKey} (named : Dict.get? m.registry id = some key) :
      Befell finished m (m.leave id)
  | rerouted (routes : Dict CellId (List CellId)) : Befell finished m { m with routes }

namespace Befell

variable {finished : CellKey → Bool} {m m' : Mesh}

/-- A shutdown that has begun is not taken back. -/
theorem stopping (h : m.Befell finished m') (begun : m.stopping = true) : m'.stopping = true := by
  cases h with
  | spared | numbered | held | released | deserted | left | rerouted => exact begun
  | shutDown => rfl
  | entered key going => exact begun

/-- Nobody enters a mesh that is stopping. -/
theorem registry_eq_nil (h : m.Befell finished m') (begun : m.stopping = true)
    (empty : m.registry = []) : m'.registry = [] := by
  cases h with
  | spared | numbered | held | released | rerouted => exact empty
  | deserted | shutDown => rfl
  | entered key going =>
    rw [begun] at going
    cases going
  | @left id key named =>
    rw [empty] at named
    cases named

/-- A mesh that has come to stop lists nobody. -/
theorem emptied (h : m.Befell finished m') (before : m.stopping = true → m.registry = [])
    (begun : m'.stopping = true) : m'.registry = [] := by
  by_cases earlier : m.stopping = true
  · exact h.registry_eq_nil earlier (before earlier)
  · cases h with
    | spared | numbered | held | released | entered | left | rerouted => exact absurd begun earlier
    | deserted | shutDown => rfl

/-- A mesh that is not stopping goes on to keep the loops that are not over. -/
theorem mem_loops (h : m.Befell finished m') (going : m'.stopping = false) {j : CellKey}
    (kept : j ∈ m.loops) (live : finished j = false) : j ∈ m'.loops := by
  cases h with
  | spared | numbered | held | released | deserted | left | rerouted => exact kept
  | shutDown => cases going
  | entered key _ => exact List.mem_append_left _ (List.mem_filter.mpr ⟨kept, by simp [live]⟩)

/-- Whoever gets a name is among the loops. -/
theorem mem_loops_of_named (h : m.Befell finished m') {id : CellId} {key : CellKey}
    (named : Dict.get? m'.registry id = some key) (new : Dict.get? m.registry id ≠ some key) :
    key ∈ m'.loops := by
  cases h with
  | spared | numbered | held | released | rerouted => exact absurd named new
  | deserted | shutDown => cases named
  | entered j _ =>
    rw [Dict.get?_insert] at named
    split at named
    · cases named
      exact List.mem_append_right _ (List.mem_singleton_self _)
    · exact absurd named new
  | left =>
    rw [show (m.leave _).registry = Dict.erase m.registry _ from rfl, Dict.get?_erase] at named
    split at named
    · cases named
    · exact absurd named new

end Befell

end Mesh

namespace World

open Time

variable {β : Type} {w w' : World β}

/-- Every mesh is still there and something that may befall it befell it. -/
def Upkept (w w' : World β) : Prop :=
  ∀ mesh m, w.meshes.get? mesh = some m →
    ∃ m', w'.meshes.get? mesh = some m' ∧ m.Befell w.isOver m'

theorem upkept_of_eq (h : w'.meshes = w.meshes) : Upkept w w' :=
  fun _ m hm => ⟨m, h ▸ hm, .spared⟩

/-- One mesh changes. -/
theorem upkept_of_modify (mesh : MeshId) (f : Mesh → Mesh)
    (h : w'.meshes = w.meshes.modify mesh f)
    (hf : ∀ m, w.meshes.get? mesh = some m → m.Befell w.isOver (f m)) : Upkept w w' := by
  intro j m hm
  rw [h, Table.get?_modify, hm]
  split
  · rename_i hj
    subst hj
    exact ⟨f m, rfl, hf m hm⟩
  · exact ⟨m, rfl, .spared⟩

theorem upkept_release (w : World β) (mesh : MeshId) : Upkept w (w.release mesh) := by
  unfold release
  dsimp only
  cases hm : w.meshes.get? mesh with
  | none =>
    have absent : (w.modifyMesh mesh fun m => { m with holders := m.holders - 1 }).meshes.get? mesh =
        none := by
      rw [get?_modifyMesh, if_pos rfl, hm]
      rfl
    rw [absent]
    exact upkept_of_eq (Table.modify_eq_self hm _)
  | some m =>
    have fewer : (w.modifyMesh mesh fun m => { m with holders := m.holders - 1 }).meshes.get? mesh =
        some { m with holders := m.holders - 1 } := by
      rw [get?_modifyMesh, if_pos rfl, hm]
      rfl
    rw [fewer]
    split
    · rename_i last
      refine upkept_of_modify mesh
        (fun m => { m with holders := m.holders - 1, registry := [], routes := [] }) ?_
        fun m₀ hm₀ => ?_
      · rw [meshes_vacate]
        exact Table.modify_modify _ _ _ _
      · cases hm.symm.trans hm₀
        simp only [Option.any_some, Mesh.isAlive, Bool.not_eq_true', gt_iff_lt,
          decide_eq_false_iff_not] at last
        exact .deserted (Nat.eq_zero_of_not_pos last)
    · rename_i held
      refine upkept_of_modify mesh _ rfl fun m₀ hm₀ => ?_
      cases hm.symm.trans hm₀
      simp only [Option.any_some, Mesh.isAlive, Bool.not_eq_true', gt_iff_lt,
        decide_eq_false_iff_not, not_not] at held
      exact .released held

theorem upkept_beginShutdown (w : World β) (mesh : MeshId) :
    Upkept w (w.beginShutdown mesh).2 := by
  refine upkept_of_modify mesh
    (fun m => { m with stopping := true, loops := [], registry := [], routes := [] }) ?_
    fun m _ => .shutDown
  exact (meshes_vacate _ mesh).trans (Table.modify_modify _ _ _ _)

/-- Nobody's loop comes to an end when an incarnation at its first call is let in. -/
theorem isOver_letIn {key : CellKey} {c : Cell β} (hc : w.cells.get? key = some c)
    (hp : c.phase = .starting) (outcome : Outcome) (resident : β) :
    ((w.modifyCell key (·.after (.init outcome) resident)).modifyCell key
      fun c => { c with phase := .running }).isOver = w.isOver := by
  funext j
  unfold isOver
  rw [get?_modifyCell, get?_modifyCell]
  split
  · rename_i hj
    subst hj
    simp only [hc, Cell.isOver, hp, Option.map_some, Option.all_some, Cell.after]
    decide
  · rfl

theorem upkept_letIn {key : CellKey} {c : Cell β} (hc : w.cells.get? key = some c)
    (hp : c.phase = .starting) (resident : β) (outcome : Outcome) :
    Upkept w (w.letIn c.mesh c.id key resident outcome).2 := by
  rcases letIn_cases w c.mesh c.id key resident outcome with turned | ⟨-, free, registered⟩
  · rw [turned]
    exact upkept_of_eq rfl
  · obtain ⟨m, hm, going, absent⟩ := refusal?_eq_none free
    rw [lookUp_eq hm] at absent
    rw [registered, register, isOver_letIn hc hp]
    refine upkept_of_modify c.mesh _ (enlist_meshes _ _) fun m₀ hm₀ => ?_
    cases hm.symm.trans hm₀
    exact .entered key going absent

theorem upkept_deed {floor : Nat} (d : Deed floor w w') : Upkept w w' := by
  cases d with
  | aside a => exact upkept_of_eq a.meshes
  | accept e leads => exact upkept_of_eq (enlist_meshes _ _)
  | conceive seed free => exact upkept_of_modify _ _ rfl fun m _ => .numbered
  | letIn resident outcome _ hc hp => exact upkept_letIn hc hp resident outcome
  | openMesh name requestTimeout =>
    exact fun mesh m hm => ⟨m, Table.get?_add_of_get? hm _, .spared⟩
  | hold mesh => exact upkept_of_modify mesh _ rfl fun m _ => .held
  | release mesh => exact upkept_release w mesh
  | beginShutdown mesh => exact upkept_beginShutdown w mesh
  | stopCell mesh id =>
    unfold World.stopCell
    split
    · exact upkept_of_eq rfl
    · rename_i key hk
      refine upkept_of_modify mesh _ (enlist_meshes _ _) fun m hm => ?_
      rw [hm, Option.bind_some] at hk
      exact .left hk
  | subscribe mesh emitter ids =>
    unfold World.subscribe
    split
    · exact upkept_of_eq rfl
    · exact upkept_of_modify mesh _ rfl fun m _ => .rerouted _
  | unsubscribe mesh emitter ids =>
    unfold World.unsubscribe
    split
    · exact upkept_of_modify mesh _ rfl fun m _ => .rerouted _
    · exact upkept_of_eq rfl

/-- The end of a loop takes at most a name out of a mesh. -/
theorem upkept_deregister {w₁ : World β} (h : w₁.meshes = w.meshes) (key : CellKey) :
    Upkept w (w₁.deregister key) := by
  unfold deregister
  split
  · exact upkept_of_eq h
  · refine upkept_of_modify _ _ (congrArg (Table.modify · _ _) h) fun m _ => ?_
    split
    · rename_i named
      exact .left named
    · exact .spared

/-- **What a step does to meshes.** -/
theorem upkept_step {hand hand' : CellKey → Hand} (s : Step w hand w' hand') : Upkept w w' := by
  cases s with
  | deed d => exact upkept_deed d
  | work hc worked => exact upkept_of_eq rfl
  | @leave key c c' hc left =>
    have put : (w.put key c').meshes = w.meshes := rfl
    exact upkept_deregister put key
  | dismiss => exact upkept_of_eq rfl

/-! ### Meshes come by being opened -/

theorem size_meshes_vacate (w : World β) (mesh : MeshId) :
    (w.vacate mesh).meshes.size = w.meshes.size := by
  rw [meshes_vacate, modifyMesh, Table.size_modify]

theorem size_meshes_deregister (w : World β) (key : CellKey) :
    (w.deregister key).meshes.size = w.meshes.size := by
  unfold deregister
  split
  · rfl
  · exact Table.size_modify _ _ _

/-- Only opening a mesh makes one. -/
theorem Deed.size_meshes {floor : Nat} (d : Deed floor w w') :
    w'.meshes.size = w.meshes.size ∨
      ∃ name requestTimeout, w' = (w.openMesh name requestTimeout).2 := by
  cases d with
  | aside a => exact Or.inl (by rw [a.meshes])
  | accept e leads => exact Or.inl (by rw [World.accept, enlist_meshes, modifyCell])
  | conceive seed free => exact Or.inl (Table.size_modify _ _ _)
  | @letIn key c resident outcome _ hc hp =>
    refine Or.inl ?_
    rcases letIn_cases w c.mesh c.id key resident outcome with turned | ⟨-, -, registered⟩
    · rw [turned]
      rfl
    · rw [registered, register, enlist_meshes]
      exact Table.size_modify _ _ _
  | openMesh name requestTimeout => exact Or.inr ⟨name, requestTimeout, rfl⟩
  | hold mesh => exact Or.inl (Table.size_modify _ _ _)
  | release mesh =>
    unfold World.release
    dsimp only
    split
    · exact Or.inl ((size_meshes_vacate _ _).trans (Table.size_modify _ _ _))
    · exact Or.inl (Table.size_modify _ _ _)
  | beginShutdown mesh => exact Or.inl ((size_meshes_vacate _ _).trans (Table.size_modify _ _ _))
  | stopCell mesh id =>
    unfold World.stopCell
    split
    · exact Or.inl rfl
    · refine Or.inl ?_
      rw [drain, enlist_meshes]
      exact Table.size_modify _ _ _
  | subscribe mesh emitter ids =>
    unfold World.subscribe
    split
    · exact Or.inl rfl
    · exact Or.inl (Table.size_modify _ _ _)
  | unsubscribe mesh emitter ids =>
    unfold World.unsubscribe
    split
    · exact Or.inl (Table.size_modify _ _ _)
    · exact Or.inl rfl

theorem Step.size_meshes {hand hand' : CellKey → Hand} (s : Step w hand w' hand') :
    w'.meshes.size = w.meshes.size ∨
      ∃ name requestTimeout, w' = (w.openMesh name requestTimeout).2 := by
  cases s with
  | deed d => exact d.size_meshes
  | work hc worked => exact Or.inl rfl
  | leave hc left => exact Or.inl (size_meshes_deregister _ _)
  | dismiss => exact Or.inl rfl

/-- Every mesh was there before a step and something befell it, or it has just been opened. -/
theorem befell_or_opened {hand hand' : CellKey → Hand} (s : Step w hand w' hand') {mesh : MeshId}
    {m' : Mesh} (hm' : w'.meshes.get? mesh = some m') :
    (∃ m, w.meshes.get? mesh = some m ∧ m.Befell w.isOver m') ∨
      ∃ name requestTimeout, m' = { name, requestTimeout } := by
  cases hm : w.meshes.get? mesh with
  | some m =>
    obtain ⟨m₁, hm₁, befell⟩ := upkept_step s mesh m hm
    cases hm'.symm.trans hm₁
    exact Or.inl ⟨m, rfl, befell⟩
  | none =>
    have outside : ¬ mesh.index < w.meshes.size := fun bound => by
      obtain ⟨m, known⟩ := Table.exists_get? bound
      rw [hm] at known
      cases known
    have inside := Table.index_lt_of_get? hm'
    rcases s.size_meshes with same | ⟨name, requestTimeout, rfl⟩
    · omega
    · simp only [World.openMesh, Table.get?_add, hm] at hm'
      split at hm'
      · cases hm'
        exact Or.inr ⟨name, requestTimeout, rfl⟩
      · cases hm'

end World

end EventMesh
