import EventMesh.Proofs.Mesh.Registry

/-!
# What a mesh lists

`Relisted` says once and for all what one step can do to the names and the routes of a mesh: a new
incarnation gets a free name, a registered one leaves with its routes, the mesh is vacated, cells
subscribe to a cell or stop doing so. `Departs` names the four ways in which a registered incarnation
loses its name. Main statement: every step of every loop and every deed of anybody is one of these or
leaves names and routes alone (`relisted_step`).
-/

namespace EventMesh.World

open Function Time

variable {β : Type}

/-- How an incarnation comes to lose its name: its cell is stopped, its own loop is left, its mesh is
shut down, or the last holder lets go of the mesh. -/
inductive Departs (w : World β) (hand : CellKey → Hand) (w' : World β) (mesh : MeshId)
    (id : CellId) (key : CellKey) : Prop
  | stopped (done : w' = (w.stopCell mesh id).2)
  | finished {c c' : Cell β} (hc : w.cells.get? key = some c) (left : Cell.Left (hand key) c c')
      (done : w' = (w.put key c').deregister key)
  | shutDown (done : w' = (w.beginShutdown mesh).2)
  | released (done : w' = w.release mesh) (gone : w'.isAlive mesh = false)

/-- What one step does to the names and the routes of a mesh. -/
inductive Relisted (w : World β) (hand : CellKey → Hand) (w' : World β) (mesh : MeshId) : Prop
  | kept (names : ∀ i, w'.lookUp mesh i = w.lookUp mesh i)
      (routes : ∀ e, w'.subscribers mesh e = w.subscribers mesh e)
  | entered (id : CellId) (key : CellKey) (free : w.lookUp mesh id = none)
      (names : ∀ i, w'.lookUp mesh i = if id = i then some key else w.lookUp mesh i)
      (routes : ∀ e, w'.subscribers mesh e = w.subscribers mesh e)
  | left {id : CellId} {key : CellKey} (named : w.lookUp mesh id = some key)
      (why : Departs w hand w' mesh id key)
      (names : ∀ i, w'.lookUp mesh i = if id = i then none else w.lookUp mesh i)
      (routes : ∀ e, w'.subscribers mesh e =
        if id = e then [] else (w.subscribers mesh e).filter (· ≠ id))
  | vacated (why : ∀ id key, w.lookUp mesh id = some key → Departs w hand w' mesh id key)
      (names : ∀ i, w'.lookUp mesh i = none) (routes : ∀ e, w'.subscribers mesh e = [])
  | subscribed (emitter : CellId) (ids : List CellId)
      (done : w.subscribe mesh emitter ids = (.ok (), w'))
      (known : ∀ id ∈ emitter :: ids, (w.lookUp mesh id).isSome)
      (names : ∀ i, w'.lookUp mesh i = w.lookUp mesh i)
      (routes : ∀ e, w'.subscribers mesh e =
        if emitter = e then addMissing (w.subscribers mesh e) ids else w.subscribers mesh e)
  | unsubscribed (emitter : CellId) (ids : List CellId)
      (done : w.unsubscribe mesh emitter ids = (.ok (), w'))
      (names : ∀ i, w'.lookUp mesh i = w.lookUp mesh i)
      (routes : ∀ e, w'.subscribers mesh e =
        if emitter = e then (w.subscribers mesh e).filter (· ∉ ids) else w.subscribers mesh e)

variable {w w' : World β} {hand : CellKey → Hand}

theorem SameListing.relisted {mesh : MeshId} (h : SameListing w w') : Relisted w hand w' mesh :=
  .kept (h.lookUp mesh) (h.subscribers mesh)

theorem relisted_of_meshes {mesh : MeshId} (h : w'.meshes = w.meshes) :
    Relisted w hand w' mesh :=
  (SameListing.of_meshes h).relisted

/-! ### Who leaves -/

theorem relisted_of_leave {mesh : MeshId} {id : CellId} {key : CellKey}
    (named : w.lookUp mesh id = some key) (why : Departs w hand w' mesh id key)
    (meshes : w'.meshes = (w.modifyMesh mesh (·.leave id)).meshes) (j : MeshId) :
    Relisted w hand w' j := by
  have listing := SameListing.of_meshes meshes
  by_cases hj : mesh = j
  · subst hj
    refine .left named why (fun i => ?_) fun e => ?_
    · simp [listing.lookUp, lookUp_leave]
    · simp [listing.subscribers, subscribers_leave]
  · refine .kept (fun i => ?_) fun e => ?_
    · simp [listing.lookUp, lookUp_leave, hj]
    · simp [listing.subscribers, subscribers_leave, hj]

theorem relisted_of_vacate {w₁ : World β} {mesh : MeshId} (same : SameListing w w₁)
    (done : w' = w₁.vacate mesh)
    (why : ∀ id key, w.lookUp mesh id = some key → Departs w hand w' mesh id key) (j : MeshId) :
    Relisted w hand w' j := by
  by_cases hj : mesh = j
  · subst hj
    refine .vacated why (fun i => ?_) fun e => ?_
    · rw [done, lookUp_vacate, if_pos rfl]
    · rw [done, subscribers_vacate, if_pos rfl]
  · refine .kept (fun i => ?_) fun e => ?_
    · rw [done, lookUp_vacate, if_neg hj, same.lookUp]
    · rw [done, subscribers_vacate, if_neg hj, same.subscribers]

theorem relisted_stopCell (w : World β) (hand : CellKey → Hand) (mesh : MeshId) (id : CellId)
    (j : MeshId) : Relisted w hand (w.stopCell mesh id).2 j := by
  cases hk : w.lookUp mesh id with
  | none =>
    have nothing : (w.stopCell mesh id).2 = w := by
      unfold stopCell
      rw [← lookUp, hk]
    rw [nothing]
    exact relisted_of_meshes rfl
  | some key =>
    refine relisted_of_leave hk (.stopped rfl) ?_ j
    unfold stopCell
    rw [← lookUp, hk]
    dsimp only
    rw [drain, enlist_meshes, modifyCell]

theorem relisted_beginShutdown (w : World β) (hand : CellKey → Hand) (mesh j : MeshId) :
    Relisted w hand (w.beginShutdown mesh).2 j := by
  have stopping : SameListing w
      (w.modifyMesh mesh fun m => { m with stopping := true, loops := [] }) :=
    .modifyMesh w mesh (fun _ => rfl) fun _ => rfl
  exact relisted_of_vacate stopping rfl (fun _ _ _ => .shutDown rfl) j

theorem isAlive_vacate (w : World β) (mesh j : MeshId) :
    (w.vacate mesh).isAlive j = w.isAlive j := by
  unfold isAlive
  rw [meshes_vacate, get?_modifyMesh]
  split
  · cases w.meshes.get? j <;> rfl
  · rfl

theorem relisted_release (w : World β) (hand : CellKey → Hand) (mesh j : MeshId) :
    Relisted w hand (w.release mesh) j := by
  have fewer : SameListing w (w.modifyMesh mesh fun m => { m with holders := m.holders - 1 }) :=
    .modifyMesh w mesh (fun _ => rfl) fun _ => rfl
  by_cases last :
      ((w.modifyMesh mesh fun m => { m with holders := m.holders - 1 }).meshes.get? mesh).any
        (!·.isAlive) = true
  · have done : w.release mesh =
        (w.modifyMesh mesh fun m => { m with holders := m.holders - 1 }).vacate mesh := by
      unfold release
      rw [if_pos last]
    have gone : (w.release mesh).isAlive mesh = false := by
      rw [done, isAlive_vacate, isAlive]
      revert last
      cases (w.modifyMesh mesh fun m => { m with holders := m.holders - 1 }).meshes.get? mesh with
      | none => exact fun _ => rfl
      | some m => simp
    exact relisted_of_vacate fewer done (fun _ _ _ => .released rfl gone) j
  · have done : w.release mesh = w.modifyMesh mesh fun m => { m with holders := m.holders - 1 } := by
      unfold release
      rw [if_neg last]
    rw [done]
    exact fewer.relisted

/-- An incarnation that is over gives its name back, if it has one. -/
theorem relisted_leave {key : CellKey} {c c' : Cell β} (hc : w.cells.get? key = some c)
    (left : Cell.Left (hand key) c c') (j : MeshId) :
    Relisted w hand ((w.put key c').deregister key) j := by
  have hc' : (w.put key c').cells.get? key = some c' := by rw [get?_put hc, if_pos rfl]
  obtain ⟨-, hmesh, hid⟩ := left.ended
  by_cases hk : w.lookUp c.mesh c.id = some key
  · refine relisted_of_leave hk (.finished hc left rfl) ?_ j
    rw [meshes_deregister hc' (by rwa [hmesh, hid]), hmesh, hid]
    rfl
  · rw [deregister_eq_self hc' (by rwa [hmesh, hid])]
    exact relisted_of_meshes rfl

/-! ### Who comes, and who subscribes -/

theorem relisted_letIn {key : CellKey} {c : Cell β} (resident : β) (outcome : Outcome)
    (j : MeshId) : Relisted w hand (w.letIn c.mesh c.id key resident outcome).2 j := by
  rcases letIn_cases w c.mesh c.id key resident outcome with turned | ⟨-, free, registered⟩
  · rw [turned]
    exact relisted_of_meshes rfl
  · obtain ⟨m, hm, -, absent⟩ := refusal?_eq_none free
    rw [registered]
    by_cases hj : c.mesh = j
    · subst hj
      refine .entered c.id key absent (fun i => ?_) fun e => ?_
      · rw [lookUp_register _ hm]
        simp [lookUp, modifyCell]
      · exact subscribers_register ..
    · refine .kept (fun i => ?_) fun e => ?_
      · rw [lookUp_register _ hm, if_neg fun both => hj both.1]
        rfl
      · exact subscribers_register ..

/-- A subscription is refused, or all cells of it are registered and it is entered. -/
theorem subscribe_cases (w : World β) (mesh : MeshId) (emitter : CellId) (ids : List CellId) :
    (∃ err, w.subscribe mesh emitter ids = (.error err, w)) ∨
      (∀ id ∈ emitter :: ids, (w.lookUp mesh id).isSome) ∧
        w.subscribe mesh emitter ids =
          (.ok (), w.reroute mesh emitter fun m => addMissing (m.subscribers emitter) ids) := by
  cases missing : (emitter :: ids).find? fun id => !w.hasCell mesh id with
  | some id =>
    refine Or.inl ⟨.cellNotFound id, ?_⟩
    unfold subscribe
    rw [missing]
  | none =>
    refine Or.inr ⟨?_, ?_⟩
    · intro id hid
      rw [← hasCell_eq]
      simpa using List.find?_eq_none.mp missing id hid
    · unfold subscribe
      rw [missing]
      rfl

theorem unsubscribe_cases (w : World β) (mesh : MeshId) (emitter : CellId) (ids : List CellId) :
    (∃ err, w.unsubscribe mesh emitter ids = (.error err, w)) ∨
      (w.lookUp mesh emitter).isSome ∧
        w.unsubscribe mesh emitter ids =
          (.ok (), w.reroute mesh emitter fun m => (m.subscribers emitter).filter (· ∉ ids)) := by
  cases known : w.hasCell mesh emitter with
  | false =>
    refine Or.inl ⟨.cellNotFound emitter, ?_⟩
    unfold unsubscribe
    rw [known]
    rfl
  | true =>
    refine Or.inr ⟨?_, ?_⟩
    · rw [← hasCell_eq, known]
    · unfold unsubscribe
      rw [known]
      rfl

/-- Other subscribers of one registered cell. -/
theorem subscribers_reroute_of_known {mesh : MeshId} {emitter : CellId}
    (known : (w.lookUp mesh emitter).isSome) (change : List CellId → List CellId) (j : MeshId)
    (e : CellId) :
    (w.reroute mesh emitter fun m => change (m.subscribers emitter)).subscribers j e =
      if mesh = j ∧ emitter = e then change (w.subscribers j e) else w.subscribers j e := by
  obtain ⟨key, hk⟩ := Option.isSome_iff_exists.mp known
  obtain ⟨m, hm, -⟩ := Option.bind_eq_some_iff.mp hk
  rw [subscribers_reroute hm]
  split
  · rename_i both
    rw [← both.1, ← both.2, subscribers_eq hm]
  · rfl

theorem relisted_subscribe (w : World β) (hand : CellKey → Hand) (mesh : MeshId)
    (emitter : CellId) (ids : List CellId) (j : MeshId) :
    Relisted w hand (w.subscribe mesh emitter ids).2 j := by
  rcases subscribe_cases w mesh emitter ids with ⟨err, refused⟩ | ⟨known, done⟩
  · rw [refused]
    exact relisted_of_meshes rfl
  · have names := lookUp_reroute w mesh emitter fun m => addMissing (m.subscribers emitter) ids
    have routes := subscribers_reroute_of_known (known emitter List.mem_cons_self)
      (addMissing · ids)
    rw [done]
    by_cases hj : mesh = j
    · subst hj
      exact .subscribed emitter ids done known (names mesh) fun e => by simpa using routes mesh e
    · exact .kept (names j) fun e => (routes j e).trans (if_neg fun both => hj both.1)

theorem relisted_unsubscribe (w : World β) (hand : CellKey → Hand) (mesh : MeshId)
    (emitter : CellId) (ids : List CellId) (j : MeshId) :
    Relisted w hand (w.unsubscribe mesh emitter ids).2 j := by
  rcases unsubscribe_cases w mesh emitter ids with ⟨err, refused⟩ | ⟨known, done⟩
  · rw [refused]
    exact relisted_of_meshes rfl
  · have names := lookUp_reroute w mesh emitter fun m => (m.subscribers emitter).filter (· ∉ ids)
    have routes := subscribers_reroute_of_known known (·.filter (· ∉ ids))
    rw [done]
    by_cases hj : mesh = j
    · subst hj
      exact .unsubscribed emitter ids done (names mesh) fun e => by simpa using routes mesh e
    · exact .kept (names j) fun e => (routes j e).trans (if_neg fun both => hj both.1)

/-! ### Every step -/

theorem relisted_deed {floor : Nat} (d : Deed floor w w') (j : MeshId) :
    Relisted w hand w' j := by
  cases d with
  | aside a => exact relisted_of_meshes a.meshes
  | accept e leads => exact relisted_of_meshes (enlist_meshes _ _)
  | @conceive mesh id seed free =>
    have counted : SameListing w (w.modifyMesh mesh fun m =>
        { m with nextGeneration := m.nextGeneration + 1 }) :=
      .modifyMesh w mesh (fun _ => rfl) fun _ => rfl
    have conceived : SameListing w (w.conceive mesh id seed).2.2 := counted.trans (.of_meshes rfl)
    exact conceived.relisted
  | letIn resident outcome _ hc hp => exact relisted_letIn resident outcome j
  | openMesh name requestTimeout => exact (SameListing.openMesh w name requestTimeout).relisted
  | hold mesh =>
    have held : SameListing w (w.hold mesh) := .modifyMesh w mesh (fun _ => rfl) fun _ => rfl
    exact held.relisted
  | release mesh => exact relisted_release w hand mesh j
  | beginShutdown mesh => exact relisted_beginShutdown w hand mesh j
  | stopCell mesh id => exact relisted_stopCell w hand mesh id j
  | subscribe mesh emitter ids => exact relisted_subscribe w hand mesh emitter ids j
  | unsubscribe mesh emitter ids => exact relisted_unsubscribe w hand mesh emitter ids j

/-- **What a step does to what a mesh lists.** -/
theorem relisted_step {hand' : CellKey → Hand} (s : Step w hand w' hand') (mesh : MeshId) :
    Relisted w hand w' mesh := by
  cases s with
  | deed d => exact relisted_deed d mesh
  | work hc worked => exact relisted_of_meshes rfl
  | leave hc left => exact relisted_leave hc left mesh
  | dismiss => exact relisted_of_meshes rfl

end EventMesh.World
