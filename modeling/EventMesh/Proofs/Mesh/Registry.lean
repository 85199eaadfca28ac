import EventMesh.Proofs.Mesh.Loop

/-!
# Registries

What the registries and the routes of meshes say of incarnations. In an orderly world
(`World.Orderly`) a name leads to an incarnation of that mesh and name that runs, or that broke off in
the middle of a recovery; whoever runs is found under its name; and routes join registered cells.
Every step of every loop and every deed of anybody keeps a world orderly (`orderly_step`).
-/

namespace EventMesh

namespace Cell

variable {β : Type} {c c' : Cell β}

/-- An incarnation that may be found under its name still may, and none runs that did not. -/
structure Stays (c? c?' : Option (Cell β)) : Prop where
  forth : ∀ c, c? = some c → c.phase = .running ∨ c.phase = .crashed →
    ∃ c', c?' = some c' ∧ c'.mesh = c.mesh ∧ c'.id = c.id ∧
      (c'.phase = .running ∨ c'.phase = .crashed)
  back : ∀ c', c?' = some c' → c'.phase = .running →
    ∃ c, c? = some c ∧ c.mesh = c'.mesh ∧ c.id = c'.id ∧ c.phase = .running

namespace Stays

theorem refl (c? : Option (Cell β)) : Stays c? c? :=
  ⟨fun c hc bound => ⟨c, hc, rfl, rfl, bound⟩, fun c hc running => ⟨c, hc, rfl, rfl, running⟩⟩

theorem some (mesh : c'.mesh = c.mesh) (id : c'.id = c.id)
    (phase : c'.phase = c.phase ∨ c'.phase = .crashed) : Stays (some c) (some c') := by
  constructor
  · rintro d ⟨⟩ bound
    refine ⟨c', rfl, mesh, id, ?_⟩
    rcases phase with hp | hp
    · rwa [hp]
    · exact Or.inr hp
  · rintro d ⟨⟩ running
    refine ⟨c, rfl, mesh.symm, id.symm, ?_⟩
    rcases phase with hp | hp
    · rw [← hp, running]
    · rw [hp] at running
      cases running

/-- A place whose incarnation neither was to be found nor runs. -/
theorem of_neither {c? c?' : Option (Cell β)}
    (before : ∀ c, c? = Option.some c → c.phase = .starting)
    (after : ∀ c, c?' = Option.some c → c.phase ≠ .running) : Stays c? c?' := by
  constructor
  · intro c hc bound
    rw [before c hc] at bound
    rcases bound with hp | hp <;> cases hp
  · intro c hc running
    exact absurd running (after c hc)

theorem worked {hand next : Hand} (h : Worked hand c next c') :
    Stays (Option.some c) (Option.some c') := by
  cases h with
  | take => exact some rfl rfl (Or.inl rfl)
  | handled => exact some rfl rfl (Or.inl rfl)
  | recovered => exact some rfl rfl (Or.inl rfl)
  | brokeOff => exact some rfl rfl (Or.inr rfl)
  | terminated => exact some rfl rfl (Or.inl rfl)

end Stays

theorem Left.ended {hand : Hand} (h : Left hand c c') :
    c'.phase = .ended ∧ c'.mesh = c.mesh ∧ c'.id = c.id := by
  cases h <;> exact ⟨rfl, rfl, rfl⟩

theorem close_phase_ne_running (c : Cell β) : c.close.phase ≠ .running := by
  unfold close
  split
  · nofun
  · rename_i hp
    simpa using hp

end Cell

namespace World

open Function Time

variable {β : Type}

/-! ### Names -/

/-- The incarnation registered under a name. -/
def lookUp (w : World β) (mesh : MeshId) (id : CellId) : Option CellKey :=
  (w.meshes.get? mesh).bind fun m => Dict.get? m.registry id

theorem lookUp_eq {w : World β} {mesh : MeshId} {m : Mesh} (hm : w.meshes.get? mesh = some m)
    (id : CellId) : w.lookUp mesh id = Dict.get? m.registry id := by
  rw [lookUp, hm, Option.bind_some]

theorem subscribers_eq {w : World β} {mesh : MeshId} {m : Mesh} (hm : w.meshes.get? mesh = some m)
    (emitter : CellId) : w.subscribers mesh emitter = m.subscribers emitter := by
  rw [subscribers, hm]
  rfl

theorem hasCell_eq (w : World β) (mesh : MeshId) (id : CellId) :
    w.hasCell mesh id = (w.lookUp mesh id).isSome := by
  unfold hasCell lookUp
  cases w.meshes.get? mesh <;> rfl

theorem get?_modifyMesh (w : World β) (mesh j : MeshId) (f : Mesh → Mesh) :
    (w.modifyMesh mesh f).meshes.get? j =
      if mesh = j then (w.meshes.get? j).map f else w.meshes.get? j :=
  Table.get?_modify _ _ _ _

/-- No registry has a name twice. -/
def UniqueNames (w : World β) : Prop :=
  ∀ mesh m, w.meshes.get? mesh = some m → (Dict.keys m.registry).Nodup

theorem UniqueNames.modifyMesh {w : World β} (h : w.UniqueNames) (mesh : MeshId) {f : Mesh → Mesh}
    (hf : ∀ m, w.meshes.get? mesh = some m → (Dict.keys m.registry).Nodup →
      (Dict.keys (f m).registry).Nodup) : (w.modifyMesh mesh f).UniqueNames := by
  intro j m hm
  rw [get?_modifyMesh] at hm
  split at hm
  · rename_i hj
    subst hj
    obtain ⟨m₀, hm₀, rfl⟩ := Option.map_eq_some_iff.mp hm
    exact hf m₀ hm₀ (h mesh m₀ hm₀)
  · exact h j m hm

/-- Names lead where they led and routes go where they went. -/
structure SameListing (w w' : World β) : Prop where
  unique : w.UniqueNames → w'.UniqueNames
  lookUp : ∀ mesh id, w'.lookUp mesh id = w.lookUp mesh id
  subscribers : ∀ mesh emitter, w'.subscribers mesh emitter = w.subscribers mesh emitter

namespace SameListing

variable {w w₁ w₂ : World β}

theorem of_meshes (h : w₁.meshes = w.meshes) : SameListing w w₁ := by
  refine ⟨fun unique => ?_, ?_, ?_⟩
  · unfold UniqueNames
    rwa [h]
  · intro mesh id
    rw [World.lookUp, h, World.lookUp]
  · intro mesh emitter
    rw [World.subscribers, h, World.subscribers]

theorem trans (h : SameListing w w₁) (h' : SameListing w₁ w₂) : SameListing w w₂ :=
  ⟨fun unique => h'.unique (h.unique unique),
    fun mesh id => (h'.lookUp mesh id).trans (h.lookUp mesh id),
    fun mesh emitter => (h'.subscribers mesh emitter).trans (h.subscribers mesh emitter)⟩

theorem modifyMesh (w : World β) (mesh : MeshId) {f : Mesh → Mesh}
    (registry : ∀ m, (f m).registry = m.registry) (routes : ∀ m, (f m).routes = m.routes) :
    SameListing w (w.modifyMesh mesh f) := by
  refine ⟨fun unique => ?_, ?_, ?_⟩
  · refine unique.modifyMesh mesh fun m _ hm => ?_
    rwa [registry]
  · intro j id
    unfold World.lookUp
    rw [get?_modifyMesh]
    split
    · cases w.meshes.get? j with
      | none => rfl
      | some m => simp [registry]
    · rfl
  · intro j emitter
    unfold World.subscribers
    rw [get?_modifyMesh]
    split
    · cases w.meshes.get? j with
      | none => rfl
      | some m => simp [Mesh.subscribers, routes]
    · rfl

theorem openMesh (w : World β) (name : String) (requestTimeout : Duration) :
    SameListing w (w.openMesh name requestTimeout).2 := by
  refine ⟨fun unique => ?_, ?_, ?_⟩
  · intro j m hm
    unfold World.openMesh at hm
    rw [Table.get?_add] at hm
    split at hm
    · cases hm
      exact List.nodup_nil
    · exact unique j m hm
  · intro j id
    unfold World.lookUp World.openMesh
    rw [Table.get?_add]
    split
    · rename_i hj
      rw [hj, Table.get?_next]
      rfl
    · rfl
  · intro j emitter
    unfold World.subscribers World.openMesh
    rw [Table.get?_add]
    split
    · rename_i hj
      rw [hj, Table.get?_next]
      rfl
    · rfl

end SameListing

/-! ### Names that go -/

theorem lookUp_leave (w : World β) (mesh j : MeshId) (id i : CellId) :
    (w.modifyMesh mesh (·.leave id)).lookUp j i =
      if mesh = j ∧ id = i then none else w.lookUp j i := by
  unfold lookUp
  rw [get?_modifyMesh]
  by_cases hj : mesh = j
  · cases w.meshes.get? j with
    | none => simp [hj]
    | some m => simp [hj, Mesh.leave, Dict.get?_erase]
  · simp [hj]

/-- Routes to and from a cell that leaves are gone. -/
theorem subscribers_leave (w : World β) (mesh j : MeshId) (id emitter : CellId) :
    (w.modifyMesh mesh (·.leave id)).subscribers j emitter =
      if mesh = j then if id = emitter then [] else (w.subscribers j emitter).filter (· ≠ id)
      else w.subscribers j emitter := by
  unfold subscribers
  rw [get?_modifyMesh]
  by_cases hj : mesh = j
  · rw [if_pos hj, if_pos hj]
    cases w.meshes.get? j with
    | none => simp
    | some m =>
      simp only [Option.map_some, Option.getD_some, Mesh.subscribers, Mesh.leave,
        Mesh.routesWithout, Dict.get?_mapValues, Dict.get?_erase]
      split
      · rfl
      · cases Dict.get? m.routes emitter <;> rfl
  · rw [if_neg hj, if_neg hj]

theorem mem_subscribers_leave {w : World β} {mesh j : MeshId} {id emitter i : CellId}
    (h : i ∈ (w.modifyMesh mesh (·.leave id)).subscribers j emitter) :
    i ∈ w.subscribers j emitter ∧ ¬ (mesh = j ∧ id = emitter) ∧ ¬ (mesh = j ∧ id = i) := by
  rw [subscribers_leave] at h
  split at h
  · rename_i hj
    split at h
    · cases h
    · rename_i he
      obtain ⟨hi, hne⟩ := List.mem_filter.mp h
      refine ⟨hi, fun both => he both.2, fun both => ?_⟩
      simp [both.2] at hne
  · rename_i hj
    exact ⟨h, fun both => hj both.1, fun both => hj both.1⟩

theorem meshes_foldl_drain (keys : List CellKey) (w : World β) :
    (keys.foldl drain w).meshes = w.meshes := by
  induction keys generalizing w with
  | nil => rfl
  | cons key keys ih => rw [List.foldl_cons, ih, drain, enlist_meshes, modifyCell]

theorem meshes_vacate (w : World β) (mesh : MeshId) :
    (w.vacate mesh).meshes =
      (w.modifyMesh mesh fun m => { m with registry := [], routes := [] }).meshes := by
  unfold vacate
  cases hm : w.meshes.get? mesh with
  | none =>
    dsimp only
    rw [modifyMesh, Table.modify_eq_self hm]
  | some m => exact meshes_foldl_drain _ _

theorem lookUp_vacate (w : World β) (mesh j : MeshId) (i : CellId) :
    (w.vacate mesh).lookUp j i = if mesh = j then none else w.lookUp j i := by
  unfold lookUp
  rw [meshes_vacate, get?_modifyMesh]
  split
  · cases w.meshes.get? j <;> rfl
  · rfl

theorem subscribers_vacate (w : World β) (mesh j : MeshId) (emitter : CellId) :
    (w.vacate mesh).subscribers j emitter = if mesh = j then [] else w.subscribers j emitter := by
  unfold subscribers
  rw [meshes_vacate, get?_modifyMesh]
  split
  · cases w.meshes.get? j <;> rfl
  · rfl

/-- An incarnation that is found under its name leaves. -/
theorem meshes_deregister {w : World β} {key : CellKey} {c : Cell β}
    (hc : w.cells.get? key = some c) (hk : w.lookUp c.mesh c.id = some key) :
    (w.deregister key).meshes = (w.modifyMesh c.mesh (·.leave c.id)).meshes := by
  obtain ⟨m, hm, registered⟩ := Option.bind_eq_some_iff.mp hk
  unfold deregister
  rw [hc]
  refine Table.modify_congr hm ?_
  rw [if_pos registered]

/-- One that is not leaves everything as it is. -/
theorem deregister_eq_self {w : World β} {key : CellKey} {c : Cell β}
    (hc : w.cells.get? key = some c) (hk : w.lookUp c.mesh c.id ≠ some key) :
    w.deregister key = w := by
  have untouched : w.meshes.modify c.mesh (fun m =>
      if Dict.get? m.registry c.id = some key then m.leave c.id else m) = w.meshes := by
    cases hm : w.meshes.get? c.mesh with
    | none => exact Table.modify_eq_self hm _
    | some m =>
      rw [lookUp_eq hm] at hk
      rw [Table.modify_congr hm (g := fun m => m) (by rw [if_neg hk]), Table.modify_id]
  unfold deregister
  rw [hc]
  dsimp only
  rw [modifyMesh, untouched]

/-! ### Names that come, and routes that change -/

/-- A new incarnation gets its name, if the mesh exists. -/
theorem lookUp_register (w : World β) {mesh : MeshId} {m : Mesh} (hm : w.meshes.get? mesh = some m)
    (id : CellId) (key : CellKey) (j : MeshId) (i : CellId) :
    (w.register mesh id key).lookUp j i =
      if mesh = j ∧ id = i then some key else w.lookUp j i := by
  unfold lookUp
  rw [register, enlist_meshes, get?_modifyMesh]
  by_cases hj : mesh = j
  · subst hj
    simp [modifyCell, hm, Dict.get?_insert]
  · simp [modifyCell, hj]

theorem subscribers_register (w : World β) (mesh : MeshId) (id : CellId) (key : CellKey)
    (j : MeshId) (emitter : CellId) :
    (w.register mesh id key).subscribers j emitter = w.subscribers j emitter := by
  unfold subscribers
  rw [register, enlist_meshes, get?_modifyMesh]
  split
  · unfold modifyCell
    cases w.meshes.get? j <;> rfl
  · rfl

/-- The world with other subscribers of one cell. -/
def reroute (w : World β) (mesh : MeshId) (emitter : CellId) (targets : Mesh → List CellId) :
    World β :=
  w.modifyMesh mesh fun m => { m with routes := Dict.insert m.routes emitter (targets m) }

theorem lookUp_reroute (w : World β) (mesh : MeshId) (emitter : CellId)
    (targets : Mesh → List CellId) (j : MeshId) (i : CellId) :
    (w.reroute mesh emitter targets).lookUp j i = w.lookUp j i := by
  unfold lookUp
  rw [reroute, get?_modifyMesh]
  split
  · cases w.meshes.get? j <;> rfl
  · rfl

theorem subscribers_reroute {w : World β} {mesh : MeshId} {m : Mesh}
    (hm : w.meshes.get? mesh = some m) (emitter : CellId) (targets : Mesh → List CellId)
    (j : MeshId) (e : CellId) :
    (w.reroute mesh emitter targets).subscribers j e =
      if mesh = j ∧ emitter = e then targets m else w.subscribers j e := by
  unfold subscribers
  rw [reroute, get?_modifyMesh]
  by_cases hj : mesh = j
  · subst hj
    simp only [hm, if_pos, Option.map_some, Option.getD_some, Mesh.subscribers, Dict.get?_insert,
      true_and]
    split <;> rfl
  · simp [hj]

/-! ### Orderly worlds -/

/-- What registries and routes say is so. -/
structure Orderly (w : World β) : Prop where
  unique : w.UniqueNames
  /-- A name leads to an incarnation of that name that runs or broke off. -/
  found : ∀ mesh id key, w.lookUp mesh id = some key →
    ∃ c, w.cells.get? key = some c ∧ c.mesh = mesh ∧ c.id = id ∧
      (c.phase = .running ∨ c.phase = .crashed)
  /-- Whoever runs is found under its name. -/
  listed : ∀ key c, w.cells.get? key = some c → c.phase = .running →
    w.lookUp c.mesh c.id = some key
  /-- Routes join registered cells. -/
  routed : ∀ mesh emitter id, id ∈ w.subscribers mesh emitter →
    (w.lookUp mesh emitter).isSome ∧ (w.lookUp mesh id).isSome

section Orderly

variable {w w' : World β}

theorem orderly_startingAt (wall : Wall) : (startingAt wall : World β).Orderly := by
  refine ⟨?_, ?_, ?_, ?_⟩
  · intro mesh m hm
    rw [startingAt, Table.get?_empty] at hm
    cases hm
  · rintro mesh id key ⟨⟩
  · intro key c hc
    rw [startingAt, Table.get?_empty] at hc
    cases hc
  · intro mesh emitter id h
    rw [subscribers, startingAt, Table.get?_empty] at h
    cases h

/-- A change that leaves the listing as it is. -/
theorem Orderly.frame (h : w.Orderly) (same : SameListing w w')
    (cells : ∀ key, Cell.Stays (w.cells.get? key) (w'.cells.get? key)) : w'.Orderly := by
  refine ⟨same.unique h.unique, ?_, ?_, ?_⟩
  · intro mesh id key hk
    rw [same.lookUp] at hk
    obtain ⟨c, hc, hmesh, hid, bound⟩ := h.found mesh id key hk
    obtain ⟨c', hc', hmesh', hid', bound'⟩ := (cells key).forth c hc bound
    exact ⟨c', hc', hmesh'.trans hmesh, hid'.trans hid, bound'⟩
  · intro key c' hc' hp
    obtain ⟨c, hc, hmesh, hid, running⟩ := (cells key).back c' hc' hp
    rw [same.lookUp, ← hmesh, ← hid]
    exact h.listed key c hc running
  · intro mesh emitter id hi
    rw [same.subscribers] at hi
    rw [same.lookUp, same.lookUp]
    exact h.routed mesh emitter id hi

/-- A change that takes incarnations out of the listing, which do not run afterwards. -/
theorem Orderly.retire (h : w.Orderly) (unique : w'.UniqueNames) (gone : CellKey → Prop)
    (forth : ∀ mesh id key, w'.lookUp mesh id = some key →
      w.lookUp mesh id = some key ∧ ¬ gone key)
    (back : ∀ mesh id key, w.lookUp mesh id = some key → ¬ gone key →
      w'.lookUp mesh id = some key)
    (others : ∀ key, ¬ gone key → w'.cells.get? key = w.cells.get? key)
    (stopped : ∀ key c, gone key → w'.cells.get? key = some c → c.phase ≠ .running)
    (routed : ∀ mesh emitter id, id ∈ w'.subscribers mesh emitter →
      id ∈ w.subscribers mesh emitter ∧ w'.lookUp mesh emitter = w.lookUp mesh emitter ∧
        w'.lookUp mesh id = w.lookUp mesh id) : w'.Orderly := by
  refine ⟨unique, ?_, ?_, ?_⟩
  · intro mesh id key hk
    obtain ⟨before, stays⟩ := forth mesh id key hk
    rw [others key stays]
    exact h.found mesh id key before
  · intro key c hc hp
    by_cases hg : gone key
    · exact absurd hp (stopped key c hg hc)
    · rw [others key hg] at hc
      exact back _ _ key (h.listed key c hc hp) hg
  · intro mesh emitter id hi
    obtain ⟨before, hemitter, hid⟩ := routed mesh emitter id hi
    rw [hemitter, hid]
    exact h.routed mesh emitter id before

/-- An incarnation is registered in one mesh and under one name. -/
theorem Orderly.one_name (h : w.Orderly) {mesh j : MeshId} {id i : CellId} {key : CellKey}
    (hid : w.lookUp mesh id = some key) (hi : w.lookUp j i = some key) : mesh = j ∧ id = i := by
  obtain ⟨c, hc, rfl, rfl, -⟩ := h.found mesh id key hid
  obtain ⟨c', hc', rfl, rfl, -⟩ := h.found j i key hi
  rw [hc] at hc'
  cases hc'
  exact ⟨rfl, rfl⟩

/-! ### Deeds -/

theorem refusal?_eq_none {mesh : MeshId} {id : CellId} (h : w.refusal? mesh id = none) :
    ∃ m, w.meshes.get? mesh = some m ∧ m.stopping = false ∧ w.lookUp mesh id = none := by
  unfold refusal? ifOpen at h
  cases hm : w.meshes.get? mesh with
  | none => simp [hm] at h
  | some m =>
    cases hs : m.stopping with
    | true => simp [hm, hs] at h
    | false =>
      rw [lookUp_eq hm]
      simpa [hm, hs, Dict.contains] using h

theorem mem_enrolled (h : w.UniqueNames) (mesh : MeshId) (key : CellKey) :
    key ∈ w.enrolled mesh ↔ ∃ id, w.lookUp mesh id = some key := by
  unfold enrolled lookUp
  cases hm : w.meshes.get? mesh with
  | none => simp
  | some m =>
    simp only [Option.map_some, Option.getD_some, Option.bind_some, List.mem_map]
    constructor
    · rintro ⟨⟨id, k⟩, hk, rfl⟩
      exact ⟨id, Dict.get?_of_mem (h mesh m hm) hk⟩
    · rintro ⟨id, hid⟩
      exact ⟨(id, key), Dict.mem_of_get? hid, rfl⟩

theorem Orderly.vacate (h : w.Orderly) (mesh : MeshId) : (w.vacate mesh).Orderly := by
  have unique : (w.vacate mesh).UniqueNames := by
    unfold UniqueNames
    rw [meshes_vacate]
    exact h.unique.modifyMesh mesh fun _ _ _ => List.nodup_nil
  -- An incarnation in the registry of this mesh is in no other.
  have elsewhere : ∀ j id key, w.lookUp j id = some key → key ∈ w.enrolled mesh → mesh = j := by
    intro j id key hk hin
    obtain ⟨i, hi⟩ := (mem_enrolled h.unique mesh key).mp hin
    exact (h.one_name hi hk).1
  refine h.retire unique (· ∈ w.enrolled mesh) ?_ ?_ ?_ ?_ ?_
  · intro j id key hk
    rw [lookUp_vacate] at hk
    split at hk
    · cases hk
    · rename_i hj
      exact ⟨hk, fun hin => hj (elsewhere j id key hk hin)⟩
  · intro j id key hk hout
    rw [lookUp_vacate, if_neg]
    · exact hk
    · rintro rfl
      exact hout ((mem_enrolled h.unique mesh key).mpr ⟨id, hk⟩)
  · intro key hout
    rw [get?_vacate, if_neg hout]
  · intro key c hin hc
    rw [get?_vacate, if_pos hin] at hc
    obtain ⟨c₀, -, rfl⟩ := Option.map_eq_some_iff.mp hc
    exact c₀.close_phase_ne_running
  · intro j emitter id hi
    rw [subscribers_vacate] at hi
    split at hi
    · cases hi
    · rename_i hj
      rw [lookUp_vacate, lookUp_vacate, if_neg hj, if_neg hj]
      exact ⟨hi, rfl, rfl⟩

/-- One incarnation leaves its mesh. -/
theorem Orderly.leave (h : w.Orderly) {mesh : MeshId} {id : CellId} {key : CellKey}
    (hk : w.lookUp mesh id = some key)
    (meshes : w'.meshes = (w.modifyMesh mesh (·.leave id)).meshes)
    (others : ∀ j, j ≠ key → w'.cells.get? j = w.cells.get? j)
    (stopped : ∀ c, w'.cells.get? key = some c → c.phase ≠ .running) : w'.Orderly := by
  have listing := SameListing.of_meshes meshes
  have unique : w'.UniqueNames :=
    listing.unique (h.unique.modifyMesh mesh fun _ _ hm => Dict.nodup_keys_erase hm id)
  refine h.retire unique (· = key) ?_ ?_ others ?_ ?_
  · intro j i k hik
    rw [listing.lookUp, lookUp_leave] at hik
    split at hik
    · cases hik
    · rename_i hne
      refine ⟨hik, ?_⟩
      rintro rfl
      exact hne (h.one_name hk hik)
  · intro j i k hik hne
    rw [listing.lookUp, lookUp_leave, if_neg]
    · exact hik
    · rintro ⟨rfl, rfl⟩
      rw [hk] at hik
      cases hik
      exact hne rfl
  · rintro k c rfl hc
    exact stopped c hc
  · intro j emitter i hi
    rw [listing.subscribers] at hi
    obtain ⟨before, hemitter, hid⟩ := mem_subscribers_leave hi
    rw [listing.lookUp, listing.lookUp, lookUp_leave, lookUp_leave, if_neg hemitter, if_neg hid]
    exact ⟨before, rfl, rfl⟩

theorem Orderly.stopCell (h : w.Orderly) (mesh : MeshId) (id : CellId) :
    (w.stopCell mesh id).2.Orderly := by
  unfold World.stopCell
  split
  · exact h
  · rename_i key hk
    refine h.leave hk ?_ ?_ ?_
    · rw [drain, enlist_meshes, modifyCell]
    · intro j hj
      rw [get?_drain, if_neg (Ne.symm hj)]
      rfl
    · intro c hc
      rw [get?_drain, if_pos rfl] at hc
      obtain ⟨c₀, -, rfl⟩ := Option.map_eq_some_iff.mp hc
      exact c₀.close_phase_ne_running

/-- A new incarnation is registered under a free name. -/
theorem Orderly.register (h : w.Orderly) {key : CellKey} {c : Cell β}
    (hc : w.cells.get? key = some c) (hp : c.phase = .starting)
    (free : w.refusal? c.mesh c.id = none) : (w.register c.mesh c.id key).Orderly := by
  obtain ⟨m, hm, -, absent⟩ := refusal?_eq_none free
  have lookUp := lookUp_register w hm c.id key
  have subscribers := subscribers_register w c.mesh c.id key
  have cells := get?_register w c.mesh c.id key
  refine ⟨?_, ?_, ?_, ?_⟩
  · unfold UniqueNames
    rw [World.register, enlist_meshes]
    refine h.unique.modifyMesh c.mesh fun m₀ hm₀ unique => ?_
    rw [lookUp_eq hm₀] at absent
    exact Dict.nodup_keys_insert unique absent key
  · intro j i k hk
    rw [lookUp] at hk
    split at hk
    · rename_i hji
      cases hk
      refine ⟨{ c with phase := .running }, ?_, hji.1, hji.2, Or.inl rfl⟩
      rw [cells, if_pos rfl, hc]
      rfl
    · obtain ⟨d, hd, hmesh, hid, bound⟩ := h.found j i k hk
      refine ⟨d, ?_, hmesh, hid, bound⟩
      rw [cells, if_neg]
      · exact hd
      · rintro rfl
        rw [hc] at hd
        cases hd
        rw [hp] at bound
        rcases bound with hb | hb <;> cases hb
  · intro k d hd running
    rw [cells] at hd
    split at hd
    · rename_i hk
      subst hk
      rw [hc] at hd
      cases hd
      rw [lookUp, if_pos ⟨rfl, rfl⟩]
    · have before := h.listed k d hd running
      rw [lookUp, if_neg]
      · exact before
      · rintro ⟨hmesh, hid⟩
        rw [← hmesh, ← hid, absent] at before
        cases before
  · intro j emitter i hi
    rw [subscribers] at hi
    obtain ⟨he, hi⟩ := h.routed j emitter i hi
    rw [lookUp, lookUp]
    constructor
    · split
      · rfl
      · exact he
    · split
      · rfl
      · exact hi

/-- The first call of a new incarnation is judged. -/
theorem Orderly.letIn (h : w.Orderly) {key : CellKey} {c : Cell β}
    (hc : w.cells.get? key = some c) (hp : c.phase = .starting) (resident : β)
    (outcome : Outcome) : (w.letIn c.mesh c.id key resident outcome).2.Orderly := by
  have called : (w.modifyCell key (·.after (.init outcome) resident)).Orderly := by
    refine h.frame (.of_meshes rfl) fun j => ?_
    rw [get?_modifyCell]
    split
    · rename_i hj
      rw [← hj, hc]
      exact .some rfl rfl (Or.inl rfl)
    · exact .refl _
  have hcalled : (w.modifyCell key (·.after (.init outcome) resident)).cells.get? key =
      some (c.after (.init outcome) resident) := by
    rw [get?_modifyCell, if_pos rfl, hc]
    rfl
  rcases letIn_cases w c.mesh c.id key resident outcome with turned | ⟨-, free, registered⟩
  · rw [turned]
    refine called.frame (.of_meshes rfl) fun j => ?_
    rw [get?_modifyCell (w.modifyCell key (·.after (.init outcome) resident))]
    split
    · rename_i hj
      rw [← hj, hcalled]
      refine .of_neither ?_ ?_
      · rintro d ⟨⟩
        exact hp
      · rintro d ⟨⟩ hr
        cases hr
    · exact .refl _
  · rw [registered]
    exact called.register (c := c.after (.init outcome) resident) hcalled hp free

theorem mem_addMissing {list ids : List CellId} {id : CellId} :
    id ∈ addMissing list ids ↔ id ∈ list ∨ id ∈ ids := by
  unfold addMissing
  induction ids generalizing list with
  | nil => simp
  | cons i ids ih =>
    rw [List.foldl_cons, ih]
    split
    · rename_i hi
      simp only [List.mem_cons]
      constructor
      · rintro (h | h)
        · exact Or.inl h
        · exact Or.inr (Or.inr h)
      · rintro (h | rfl | h)
        · exact Or.inl h
        · exact Or.inl hi
        · exact Or.inr h
    · simp [or_assoc]

/-- Routes change between registered cells. -/
theorem Orderly.reroute (h : w.Orderly) {mesh : MeshId} {emitter : CellId}
    (targets : Mesh → List CellId)
    (registered : ∀ m, w.meshes.get? mesh = some m → ∀ id ∈ targets m,
      (w.lookUp mesh emitter).isSome ∧ (w.lookUp mesh id).isSome) :
    (w.reroute mesh emitter targets).Orderly := by
  have lookUp := lookUp_reroute w mesh emitter targets
  refine ⟨h.unique.modifyMesh mesh fun m _ hm => hm, ?_, ?_, ?_⟩
  · intro j i key hk
    rw [lookUp] at hk
    exact h.found j i key hk
  · intro key c hc running
    rw [lookUp]
    exact h.listed key c hc running
  · intro j e i hi
    rw [lookUp, lookUp]
    cases hm : w.meshes.get? mesh with
    | none =>
      rw [World.reroute, World.modifyMesh, Table.modify_eq_self hm] at hi
      exact h.routed j e i hi
    | some m =>
      rw [subscribers_reroute hm] at hi
      split at hi
      · rename_i both
        obtain ⟨rfl, rfl⟩ := both
        exact registered m hm i hi
      · exact h.routed j e i hi

theorem Orderly.subscribe (h : w.Orderly) (mesh : MeshId) (emitter : CellId) (ids : List CellId) :
    (w.subscribe mesh emitter ids).2.Orderly := by
  unfold World.subscribe
  split
  · exact h
  · rename_i none_missing
    have known : ∀ id ∈ emitter :: ids, (w.lookUp mesh id).isSome := by
      intro id hid
      rw [← hasCell_eq]
      simpa using List.find?_eq_none.mp none_missing id hid
    refine h.reroute (fun m => addMissing (m.subscribers emitter) ids) fun m hm id hid => ?_
    refine ⟨known emitter List.mem_cons_self, ?_⟩
    rcases mem_addMissing.mp hid with hold | hnew
    · rw [← subscribers_eq hm] at hold
      exact (h.routed mesh emitter id hold).2
    · exact known id (List.mem_cons_of_mem _ hnew)

theorem Orderly.unsubscribe (h : w.Orderly) (mesh : MeshId) (emitter : CellId)
    (ids : List CellId) : (w.unsubscribe mesh emitter ids).2.Orderly := by
  unfold World.unsubscribe
  split
  · refine h.reroute (fun m => (m.subscribers emitter).filter (· ∉ ids)) fun m hm id hid => ?_
    rw [← subscribers_eq hm] at hid
    exact h.routed mesh emitter id (List.mem_filter.mp hid).1
  · exact h

/-- **Every deed keeps a world orderly.** -/
theorem orderly_deed {floor : Nat} (d : Deed floor w w') (h : w.Orderly) : w'.Orderly := by
  have unlisted : ∀ {mesh : MeshId} {f : Mesh → Mesh}, (∀ m, (f m).registry = m.registry) →
      (∀ m, (f m).routes = m.routes) → (w.modifyMesh mesh f).Orderly :=
    fun registry routes => h.frame (.modifyMesh w _ registry routes) fun _ => .refl _
  cases d with
  | aside a => exact h.frame (.of_meshes a.meshes) fun key => a.cells ▸ .refl _
  | accept e leads =>
    refine h.frame (.of_meshes (enlist_meshes _ _)) fun j => ?_
    rw [get?_accept]
    split
    · cases w.cells.get? j with
      | none => exact .refl none
      | some c => exact .some rfl rfl (Or.inl rfl)
    · exact .refl _
  | @conceive mesh id seed free =>
    have counted : SameListing w (w.modifyMesh mesh fun m =>
        { m with nextGeneration := m.nextGeneration + 1 }) :=
      .modifyMesh w mesh (fun _ => rfl) fun _ => rfl
    refine h.frame (counted.trans (.of_meshes rfl)) fun j => ?_
    simp only [World.conceive, modifyMesh, Table.get?_add]
    split
    · rename_i hj
      rw [hj, Table.get?_next]
      refine .of_neither ?_ ?_
      · rintro c ⟨⟩
      · rintro c ⟨⟩ hp
        cases hp
    · exact .refl _
  | letIn resident outcome _ hc hp => exact h.letIn hc hp resident outcome
  | openMesh name requestTimeout => exact h.frame (.openMesh w name requestTimeout) fun _ => .refl _
  | hold mesh => exact unlisted (fun _ => rfl) fun _ => rfl
  | release mesh =>
    have released : (w.modifyMesh mesh fun m => { m with holders := m.holders - 1 }).Orderly :=
      unlisted (fun _ => rfl) fun _ => rfl
    unfold World.release
    dsimp only
    split
    · exact released.vacate mesh
    · exact released
  | beginShutdown mesh =>
    have stopping : (w.modifyMesh mesh fun m => { m with stopping := true, loops := [] }).Orderly :=
      unlisted (fun _ => rfl) fun _ => rfl
    exact stopping.vacate mesh
  | stopCell mesh id => exact h.stopCell mesh id
  | subscribe mesh emitter ids => exact h.subscribe mesh emitter ids
  | unsubscribe mesh emitter ids => exact h.unsubscribe mesh emitter ids

/-! ### Steps of loops -/

/-- An incarnation that is over gives its name back, if it has one. -/
theorem Orderly.quit (h : w.Orderly) {hand : Hand} {key : CellKey} {c c' : Cell β}
    (hc : w.cells.get? key = some c) (left : Cell.Left hand c c') :
    ((w.put key c').deregister key).Orderly := by
  have hc' : (w.put key c').cells.get? key = some c' := by rw [get?_put hc, if_pos rfl]
  obtain ⟨ended, hmesh, hid⟩ := left.ended
  have others : ∀ j, j ≠ key →
      ((w.put key c').deregister key).cells.get? j = w.cells.get? j := by
    intro j hj
    rw [deregister_cells, get?_put hc, if_neg (Ne.symm hj)]
  have finished : ∀ d, ((w.put key c').deregister key).cells.get? key = some d →
      d.phase ≠ .running := by
    intro d hd
    rw [deregister_cells, hc'] at hd
    cases hd
    rw [ended]
    nofun
  by_cases hk : w.lookUp c.mesh c.id = some key
  · refine h.leave hk ?_ others finished
    rw [meshes_deregister hc' (by rwa [hmesh, hid]), hmesh, hid]
    rfl
  · have meshes : ((w.put key c').deregister key).meshes = w.meshes := by
      rw [deregister_eq_self hc' (by rwa [hmesh, hid])]
      rfl
    have same := SameListing.of_meshes meshes
    refine h.retire (same.unique h.unique) (· = key) ?_ ?_ others ?_ ?_
    · intro j i k hik
      rw [same.lookUp] at hik
      refine ⟨hik, ?_⟩
      rintro rfl
      obtain ⟨d, hd, rfl, rfl, -⟩ := h.found j i k hik
      rw [hc] at hd
      cases hd
      exact hk hik
    · intro j i k hik _
      rwa [same.lookUp]
    · rintro k d rfl hd
      exact finished d hd
    · intro j emitter i hi
      rw [same.subscribers] at hi
      exact ⟨hi, same.lookUp _ _, same.lookUp _ _⟩

/-- **Every step keeps a world orderly.** -/
theorem orderly_step {hand hand' : CellKey → Hand} (s : Step w hand w' hand') (h : w.Orderly) :
    w'.Orderly := by
  cases s with
  | deed d => exact orderly_deed d h
  | work hc worked =>
    refine h.frame (.of_meshes rfl) fun j => ?_
    rw [get?_put hc]
    split
    · rename_i hj
      rw [← hj, hc]
      exact .worked worked
    · exact .refl _
  | leave hc left => exact h.quit hc left
  | dismiss => exact h.frame (.of_meshes rfl) fun _ => .refl _

end Orderly

end World

end EventMesh
