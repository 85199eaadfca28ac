import EventMesh.Proofs.Mesh.Aside
import Mathlib.Logic.Relation

/-!
# Deeds

`Deed` lists once and for all what can happen to meshes and incarnations while no loop makes a call:
an event is accepted by the incarnation that a name leads to, an incarnation is conceived and let in
or turned away, a mesh is opened, shared, released or shut down, a cell is stopped, routes change.
Main statements: a deed that is no acceptance moves each incarnation in one of five ways
(`Deed.moved`), and it leaves the incarnations below its floor as they are but for their queues and
for queues that are closed (`Deed.kept`).
-/

namespace EventMesh

/-- What remains of an incarnation while its own loop makes no call: its names, its calls and its
phase, except that its queue may be closed. -/
structure Cell.Kept {β : Type} (c c' : Cell β) : Prop where
  mesh : c'.mesh = c.mesh
  id : c'.id = c.id
  calls : c'.calls = c.calls
  phase : c'.phase = c.phase ∨ c.phase = .running ∧ c'.phase = .draining

namespace Cell.Kept

variable {β : Type} {c c₁ c₂ : Cell β}

theorem refl (c : Cell β) : c.Kept c := ⟨rfl, rfl, rfl, Or.inl rfl⟩

theorem trans (h : c.Kept c₁) (h' : c₁.Kept c₂) : c.Kept c₂ := by
  refine ⟨h'.mesh.trans h.mesh, h'.id.trans h.id, h'.calls.trans h.calls, ?_⟩
  rcases h.phase with h1 | ⟨h1, h2⟩
  · rw [← h1]
    exact h'.phase
  · rcases h'.phase with h3 | ⟨h3, -⟩
    · exact Or.inr ⟨h1, h3.trans h2⟩
    · rw [h2] at h3
      cases h3

theorem accept (c : Cell β) (e : Event) : c.Kept (c.accept e) := ⟨rfl, rfl, rfl, Or.inl rfl⟩

theorem close (c : Cell β) : c.Kept c.close := by
  unfold Cell.close
  split
  · rename_i h
    exact ⟨rfl, rfl, rfl, Or.inr ⟨by simpa using h, rfl⟩⟩
  · exact .refl c

end Cell.Kept

/-- What a deed that is no acceptance can do to an incarnation, or to a place without one: nothing,
or it is conceived, closed, turned away or let in. The last two only befall the young. -/
inductive Cell.Moved {β : Type} (young : Prop) : Option (Cell β) → Option (Cell β) → Prop
  | same (c? : Option (Cell β)) : Moved young c? c?
  | born (mesh : MeshId) (id : CellId) (generation : Nat) (seed : β) :
      Moved young none (some { mesh, id, generation, resident := seed })
  | closed (c : Cell β) : Moved young (some c) (some c.close)
  | turnedAway {c : Cell β} (hy : young) (hp : c.phase = .starting) (outcome : Outcome)
      (resident : β) :
      Moved young (some c) (some { c.after (.init outcome) resident with phase := .refused })
  | letIn {c : Cell β} (hy : young) (hp : c.phase = .starting) (resident : β) :
      Moved young (some c) (some { c.after (.init .done) resident with phase := .running })

theorem Cell.Moved.mono {β : Type} {young younger : Prop} {c? c?' : Option (Cell β)}
    (h : Cell.Moved young c? c?') (imp : young → younger) : Cell.Moved younger c? c?' := by
  cases h with
  | same => exact .same _
  | born mesh id generation seed => exact .born mesh id generation seed
  | closed c => exact .closed c
  | turnedAway hy hp outcome resident => exact .turnedAway (imp hy) hp outcome resident
  | letIn hy hp resident => exact .letIn (imp hy) hp resident

theorem Cell.Moved.kept {β : Type} {young : Prop} {c : Cell β} {c? : Option (Cell β)}
    (h : Cell.Moved young (some c) c?) (old : ¬ young) : ∃ c', c? = some c' ∧ c.Kept c' := by
  cases h with
  | same => exact ⟨c, rfl, .refl c⟩
  | closed => exact ⟨c.close, rfl, .close c⟩
  | turnedAway hy => exact absurd hy old
  | letIn hy => exact absurd hy old

namespace World

open Time

variable {β : Type}

/-- One more holder of a mesh. -/
def hold (w : World β) (mesh : MeshId) : World β :=
  w.modifyMesh mesh fun m => { m with holders := m.holders + 1 }

/-- What happens in one go. Incarnations below the floor are not let in. -/
inductive Deed (floor : Nat) (w : World β) : World β → Prop
  | aside {w' : World β} (h : Aside w w') : Deed floor w w'
  | accept {mesh : MeshId} {target : CellId} {key : CellKey} (e : Event)
      (h : w.route mesh target = .ok key) : Deed floor w (w.accept key e)
  | conceive {mesh : MeshId} {id : CellId} (seed : β) (h : w.refusal? mesh id = none) :
      Deed floor w (w.conceive mesh id seed).2.2
  | letIn {key : CellKey} {c : Cell β} (resident : β) (outcome : Outcome)
      (hfloor : floor ≤ key.index) (hc : w.cells.get? key = some c) (hp : c.phase = .starting) :
      Deed floor w (w.letIn c.mesh c.id key resident outcome).2
  | openMesh (name : String) (requestTimeout : Duration) :
      Deed floor w (w.openMesh name requestTimeout).2
  | hold (mesh : MeshId) : Deed floor w (w.hold mesh)
  | release (mesh : MeshId) : Deed floor w (w.release mesh)
  | beginShutdown (mesh : MeshId) : Deed floor w (w.beginShutdown mesh).2
  | stopCell (mesh : MeshId) (id : CellId) : Deed floor w (w.stopCell mesh id).2
  | subscribe (mesh : MeshId) (emitter : CellId) (ids : List CellId) :
      Deed floor w (w.subscribe mesh emitter ids).2
  | unsubscribe (mesh : MeshId) (emitter : CellId) (ids : List CellId) :
      Deed floor w (w.unsubscribe mesh emitter ids).2

theorem Deed.mono {floor higher : Nat} (h : floor ≤ higher) {w w' : World β}
    (d : Deed higher w w') : Deed floor w w' := by
  cases d with
  | letIn resident outcome hfloor hc hp => exact .letIn resident outcome (Nat.le_trans h hfloor) hc hp
  | aside h => exact .aside h
  | accept e h => exact .accept e h
  | conceive seed h => exact .conceive seed h
  | openMesh name requestTimeout => exact .openMesh name requestTimeout
  | hold mesh => exact .hold mesh
  | release mesh => exact .release mesh
  | beginShutdown mesh => exact .beginShutdown mesh
  | stopCell mesh id => exact .stopCell mesh id
  | subscribe mesh emitter ids => exact .subscribe mesh emitter ids
  | unsubscribe mesh emitter ids => exact .unsubscribe mesh emitter ids

/-! ### What each deed does to the incarnations -/

theorem get?_modifyCell (w : World β) (key j : CellKey) (f : Cell β → Cell β) :
    (w.modifyCell key f).cells.get? j =
      if key = j then (w.cells.get? j).map f else w.cells.get? j :=
  Table.get?_modify _ _ _ _

theorem get?_accept (w : World β) (key j : CellKey) (e : Event) :
    (w.accept key e).cells.get? j =
      if key = j then (w.cells.get? j).map (·.accept e) else w.cells.get? j := by
  rw [accept, enlist_cells, get?_modifyCell]

theorem get?_drain (w : World β) (key j : CellKey) :
    (w.drain key).cells.get? j =
      if key = j then (w.cells.get? j).map (·.close) else w.cells.get? j := by
  rw [drain, enlist_cells, get?_modifyCell]

theorem get?_foldl_drain (keys : List CellKey) (w : World β) (j : CellKey) :
    (keys.foldl drain w).cells.get? j =
      if j ∈ keys then (w.cells.get? j).map (·.close) else w.cells.get? j := by
  induction keys generalizing w with
  | nil => rfl
  | cons key keys ih =>
    rw [List.foldl_cons, ih, get?_drain]
    by_cases hk : key = j
    · subst hk
      cases w.cells.get? key <;> simp
    · by_cases hj : j ∈ keys <;> simp [hk, hj, Ne.symm hk]

/-- The incarnations registered in a mesh. -/
def enrolled (w : World β) (mesh : MeshId) : List CellKey :=
  ((w.meshes.get? mesh).map fun m => m.registry.map (·.2)).getD []

theorem get?_vacate (w : World β) (mesh : MeshId) (j : CellKey) :
    (w.vacate mesh).cells.get? j =
      if j ∈ w.enrolled mesh then (w.cells.get? j).map (·.close) else w.cells.get? j := by
  unfold vacate enrolled
  cases w.meshes.get? mesh with
  | none => simp
  | some m => exact get?_foldl_drain _ _ _

/-- An incarnation is turned away, or its first call was done, its name is free and it is
registered. -/
theorem letIn_cases (w : World β) (mesh : MeshId) (id : CellId) (key : CellKey) (resident : β)
    (outcome : Outcome) :
    (w.letIn mesh id key resident outcome).2 =
        (w.modifyCell key (·.after (.init outcome) resident)).modifyCell key
          (fun c => { c with phase := .refused }) ∨
      outcome = .done ∧
        (w.modifyCell key (·.after (.init outcome) resident)).refusal? mesh id = none ∧
        (w.letIn mesh id key resident outcome).2 =
          (w.modifyCell key (·.after (.init outcome) resident)).register mesh id key := by
  unfold letIn
  dsimp only
  split
  · exact Or.inl rfl
  · exact Or.inl rfl
  · split
    · exact Or.inl rfl
    · rename_i free
      exact Or.inr ⟨rfl, free, rfl⟩

theorem get?_register (w : World β) (mesh : MeshId) (id : CellId) (key j : CellKey) :
    (w.register mesh id key).cells.get? j =
      if key = j then (w.cells.get? j).map (fun c => { c with phase := .running })
      else w.cells.get? j := by
  simp only [register, enlist_cells, modifyMesh, get?_modifyCell]

theorem moved_letIn (w : World β) {key : CellKey} {c : Cell β} (hc : w.cells.get? key = some c)
    (hp : c.phase = .starting) (resident : β) (outcome : Outcome) (j : CellKey) :
    Cell.Moved (key = j) (w.cells.get? j)
      ((w.letIn c.mesh c.id key resident outcome).2.cells.get? j) := by
  by_cases hj : key = j
  · subst hj
    rcases letIn_cases w c.mesh c.id key resident outcome with h | ⟨rfl, -, h⟩
    · rw [h, get?_modifyCell, get?_modifyCell, if_pos rfl, if_pos rfl, hc]
      exact .turnedAway rfl hp outcome resident
    · rw [h, get?_register, get?_modifyCell, if_pos rfl, if_pos rfl, hc]
      exact .letIn rfl hp resident
  · have unchanged :
        (w.letIn c.mesh c.id key resident outcome).2.cells.get? j = w.cells.get? j := by
      rcases letIn_cases w c.mesh c.id key resident outcome with h | ⟨-, -, h⟩
      · rw [h, get?_modifyCell, get?_modifyCell, if_neg hj, if_neg hj]
      · rw [h, get?_register, get?_modifyCell, if_neg hj, if_neg hj]
    rw [unchanged]
    exact .same _

theorem route_ok {w : World β} {mesh : MeshId} {target : CellId} {key : CellKey}
    (h : w.route mesh target = .ok key) :
    ∃ m c, w.meshes.get? mesh = some m ∧ m.stopping = false ∧
      Dict.get? m.registry target = some key ∧ w.cells.get? key = some c ∧ c.phase = .running := by
  unfold route ifOpen at h
  split at h
  · cases h
  · rename_i m hm
    split at h
    · cases h
    · rename_i hs
      dsimp only at h
      split at h
      · cases h
      · rename_i taker ht
        cases h
        obtain ⟨registered, hopen⟩ := Option.filter_eq_some_iff.mp ht
        obtain ⟨c, hc, hp⟩ := (Option.any_eq_true ..).mp hopen
        exact ⟨m, c, hm, by simpa using hs, registered, hc, by simpa [Cell.isOpen] using hp⟩

/-- An event that is sent to an incarnation is accepted by the one that its own name leads to, or by
nobody. -/
theorem deliverTo_cases (w : World β) (key : CellKey) (e : Event) :
    w.deliverTo key e = w ∨
      ∃ c, w.cells.get? key = some c ∧ w.isAlive c.mesh = true ∧ w.route c.mesh c.id = .ok key ∧
        w.deliverTo key e = w.accept key e := by
  unfold deliverTo
  split
  · exact Or.inl rfl
  · rename_i c hc
    split
    · rename_i held
      split
      · exact Or.inl rfl
      · rename_i taker leads
        split
        · rename_i same
          subst same
          exact Or.inr ⟨c, hc, held, leads, rfl⟩
        · exact Or.inl rfl
    · exact Or.inl rfl

/-- **What a deed does to the incarnations**: it is the acceptance of an event, or it moves each of
them as `Cell.Moved` says. -/
theorem Deed.moved {floor : Nat} {w w' : World β} (d : Deed floor w w') :
    (∃ mesh target key e, w.route mesh target = .ok key ∧ w' = w.accept key e) ∨
      ∀ j : CellKey, Cell.Moved (floor ≤ j.index) (w.cells.get? j) (w'.cells.get? j) := by
  have closing {young p : Prop} [Decidable p] {c? c?' : Option (Cell β)}
      (h : c?' = if p then c?.map (·.close) else c?) : Cell.Moved young c? c?' := by
    rw [h]
    split
    · cases c? with
      | none => exact .same none
      | some c => exact .closed c
    · exact .same _
  cases d with
  | aside h => exact Or.inr fun j => h.cells ▸ .same _
  | accept e h => exact Or.inl ⟨_, _, _, e, h, rfl⟩
  | conceive seed h =>
    refine Or.inr fun j => ?_
    by_cases hj : j = w.cells.next
    · simp only [World.conceive, modifyMesh, Table.get?_add, hj, Table.get?_next]
      exact .born _ _ _ seed
    · simp only [World.conceive, modifyMesh, Table.get?_add, if_neg hj]
      exact .same _
  | letIn resident outcome hfloor hc hp =>
    refine Or.inr fun j => ?_
    exact (moved_letIn w hc hp resident outcome j).mono fun hj => hj ▸ hfloor
  | openMesh name requestTimeout => exact Or.inr fun j => .same _
  | hold mesh => exact Or.inr fun j => .same _
  | release mesh =>
    refine Or.inr fun j => ?_
    unfold World.release
    dsimp only
    split
    · exact closing (get?_vacate _ _ j)
    · exact .same _
  | beginShutdown mesh => exact Or.inr fun j => closing (get?_vacate _ _ j)
  | stopCell mesh id =>
    refine Or.inr fun j => ?_
    unfold World.stopCell
    split
    · exact .same _
    · exact closing (get?_drain _ _ j)
  | subscribe mesh emitter ids =>
    refine Or.inr fun j => ?_
    unfold World.subscribe
    split <;> exact .same _
  | unsubscribe mesh emitter ids =>
    refine Or.inr fun j => ?_
    unfold World.unsubscribe
    split <;> exact .same _

/-! ### What deeds keep -/

/-- An incarnation that a world still has, kept. -/
def KeptAt (w w' : World β) (key : CellKey) : Prop :=
  ∀ c, w.cells.get? key = some c → ∃ c', w'.cells.get? key = some c' ∧ c.Kept c'

namespace KeptAt

variable {w w₁ w₂ : World β} {key : CellKey}

theorem of_eq (h : w₁.cells.get? key = w.cells.get? key) : KeptAt w w₁ key :=
  fun c hc => ⟨c, h.trans hc, .refl c⟩

theorem trans (h : KeptAt w w₁ key) (h' : KeptAt w₁ w₂ key) : KeptAt w w₂ key := by
  intro c hc
  obtain ⟨c₁, hc₁, k₁⟩ := h c hc
  obtain ⟨c₂, hc₂, k₂⟩ := h' c₁ hc₁
  exact ⟨c₂, hc₂, k₁.trans k₂⟩

end KeptAt

theorem Deed.kept {floor : Nat} {w w' : World β} (d : Deed floor w w') {key : CellKey}
    (hk : key.index < floor) : KeptAt w w' key := by
  intro c hc
  rcases d.moved with ⟨mesh, target, taker, e, -, rfl⟩ | moved
  · rw [get?_accept, hc]
    split
    · exact ⟨c.accept e, rfl, .accept c e⟩
    · exact ⟨c, rfl, .refl c⟩
  · have at_key := moved key
    rw [hc] at at_key
    exact at_key.kept (by omega)

end World

end EventMesh
