import EventMesh.Proofs.Mesh.Registry

/-!
# What comes of a start

A start is declined on the spot, or its incarnation is conceived, makes its first call and is turned
away or let in. `Started` says which of the three it was and what the world is then; main statement:
every start is one of them (`started_start`).
-/

namespace EventMesh.World

variable {β : Type}

theorem letIn_error {w : World β} {mesh : MeshId} {id : CellId} {key : CellKey} {resident : β}
    {outcome : Outcome} {err : MeshError}
    (h : (w.letIn mesh id key resident outcome).1 = .error err) :
    (w.letIn mesh id key resident outcome).2 =
      (w.modifyCell key (·.after (.init outcome) resident)).modifyCell key
        fun c => { c with phase := .refused } := by
  unfold letIn at h ⊢
  dsimp only at h ⊢
  split
  · rfl
  · rfl
  · dsimp only at h
    split at h
    · rfl
    · cases h

theorem letIn_ok {w : World β} {mesh : MeshId} {id : CellId} {key : CellKey} {resident : β}
    {outcome : Outcome} (h : (w.letIn mesh id key resident outcome).1 = .ok ()) :
    outcome = .done ∧ w.refusal? mesh id = none ∧
      (w.letIn mesh id key resident outcome).2 =
        (w.modifyCell key (·.after (.init .done) resident)).register mesh id key := by
  unfold letIn at h ⊢
  dsimp only at h ⊢
  split
  · cases h
  · cases h
  · dsimp only at h
    split at h
    · cases h
    · rename_i free
      exact ⟨rfl, free, rfl⟩

/-- What a start under a name returns, and the world after it. -/
inductive Started (w : World β) (mesh : MeshId) (id : CellId) :
    Except MeshError Unit → World β → Prop
  | declined {err : MeshError} (taken : w.refusal? mesh id = some err) :
      Started w mesh id (.error err) w
  | turnedAway {w₁ : World β} {c : Cell β} (calling : Course w w₁)
      (hc : w₁.cells.get? w.cells.next = some c) (nascent : c.Nascent mesh id) (outcome : Outcome)
      (resident : β) (err : MeshError) :
      Started w mesh id (.error err)
        (w₁.put w.cells.next { c.after (.init outcome) resident with phase := .refused })
  | letIn {w₁ : World β} {c : Cell β} (calling : Course w w₁)
      (hc : w₁.cells.get? w.cells.next = some c) (nascent : c.Nascent mesh id) (resident : β)
      (free : w₁.refusal? mesh id = none) :
      Started w mesh id (.ok ())
        ((w₁.put w.cells.next (c.after (.init .done) resident)).register mesh id w.cells.next)

/-- **A start is declined, turned away or let in**, whatever its first call does. -/
theorem started_startWith (w : World β) (mesh : MeshId) (id : CellId) (seed : β)
    {firstCall : Outlet → World β → β × Outcome × World β}
    (h : ∀ outlet w, Course w (firstCall outlet w).2.2) :
    Started w mesh id (w.startWith mesh id seed firstCall).1
      (w.startWith mesh id seed firstCall).2 := by
  unfold startWith
  cases free : w.refusal? mesh id with
  | some err => exact .declined free
  | none =>
    dsimp only
    have making : Course w (w.conceive mesh id seed).2.2 := .single (.conceive seed free)
    have calling := h (.cell mesh w.cells.next id (w.conceive mesh id seed).2.1)
      (w.conceive mesh id seed).2.2
    obtain ⟨c, hc, nascent⟩ := nascent_conceive w mesh id seed calling
    rw [show (w.conceive mesh id seed).1 = w.cells.next from rfl]
    generalize firstCall (.cell mesh w.cells.next id _) _ = called at calling hc ⊢
    obtain ⟨resident, outcome, w₁⟩ := called
    dsimp only at calling hc ⊢
    cases judged : (w₁.letIn mesh id w.cells.next resident outcome).1 with
    | error err =>
      rw [letIn_error judged, modifyCell_eq_put hc,
        modifyCell_eq_put (c := c.after (.init outcome) resident)
          (by rw [get?_put hc, if_pos rfl]), put_put]
      exact .turnedAway (making.trans calling) hc nascent outcome resident err
    | ok _ =>
      obtain ⟨-, still_free, registered⟩ := letIn_ok judged
      rw [registered, modifyCell_eq_put hc]
      exact .letIn (making.trans calling) hc nascent resident still_free

theorem started_start [Behavior β] (w : World β) (mesh : MeshId) (id : CellId) (b : β) :
    Started w mesh id (w.start mesh id b).1 (w.start mesh id b).2 :=
  started_startWith w mesh id b fun _ w => course_perform _ w

/-- **A start that succeeds lets in an incarnation that has just begun**, in the state that a first call
which just succeeds leaves it in. -/
theorem get?_start [Behavior β] {w : World β} {mesh : MeshId} {id : CellId} {seed : β}
    (next : Outlet → β) (simple : ∀ outlet, Behavior.init seed outlet = .finish (next outlet) .done)
    (ok : (w.start mesh id seed).1 = .ok ()) :
    ∃ c, (w.start mesh id seed).2.cells.get? w.cells.next = some c ∧ c.mesh = mesh ∧ c.id = id ∧
      c.phase = .running ∧ c.calls = [.init .done] ∧
      c.resident = next (.cell c.mesh w.cells.next c.id c.generation) := by
  have free : w.refusal? mesh id = none := by
    unfold start startWith at ok
    split at ok
    · cases ok
    · assumption
  set generation := ((w.meshes.get? mesh).map (·.nextGeneration)).getD 0
  set outlet := Outlet.cell mesh w.cells.next id generation
  set conceived := (w.conceive mesh id seed).2.2
  have started : w.start mesh id seed =
      conceived.letIn mesh id w.cells.next (next outlet) .done := by
    unfold start startWith
    rw [free]
    dsimp only
    rw [simple]
    rfl
  have born : conceived.cells.get? w.cells.next = some { mesh, id, generation, resident := seed } := by
    rw [show conceived.cells = w.cells.add { mesh, id, generation, resident := seed } from rfl,
      Table.get?_add, if_pos rfl]
  rw [started] at ok ⊢
  obtain ⟨-, -, registered⟩ := letIn_ok ok
  rw [registered]
  refine ⟨{ mesh, id, generation, resident := next outlet, phase := .running, calls := [.init .done] },
    ?_, rfl, rfl, rfl, rfl, rfl⟩
  rw [get?_register, get?_modifyCell, if_pos rfl, if_pos rfl, born]
  rfl

end EventMesh.World
