import EventMesh.Proofs.Mesh.Parts
import Mathlib.Tactic.Set

/-!
# Courses

A `Course` is a sequence of deeds that lets in only incarnations conceived on the way. Main
statements: performing any script is a course (`course_perform`), and so is the start of a cell
(`course_start`); a course keeps the incarnations that were there (`Course.kept`).
-/

namespace EventMesh

/-- An incarnation that is still at its first call. -/
structure Cell.Nascent {β : Type} (c : Cell β) (mesh : MeshId) (id : CellId) : Prop where
  phase : c.phase = .starting
  mesh : c.mesh = mesh
  id : c.id = id
  calls : c.calls = []

namespace World

open Time

variable {β : Type}

/-! ### The number of incarnations -/

theorem size_foldl_drain (keys : List CellKey) (w : World β) :
    (keys.foldl drain w).cells.size = w.cells.size := by
  induction keys generalizing w with
  | nil => rfl
  | cons key keys ih => rw [List.foldl_cons, ih, drain, enlist_cells, modifyCell, Table.size_modify]

theorem size_vacate (w : World β) (mesh : MeshId) : (w.vacate mesh).cells.size = w.cells.size := by
  unfold vacate
  split
  · rfl
  · exact size_foldl_drain _ _

theorem size_letIn (w : World β) (mesh : MeshId) (id : CellId) (key : CellKey) (resident : β)
    (outcome : Outcome) : (w.letIn mesh id key resident outcome).2.cells.size = w.cells.size := by
  rcases letIn_cases w mesh id key resident outcome with h | ⟨-, -, h⟩
  · simp only [h, modifyCell, Table.size_modify]
  · simp only [h, register, enlist_cells, modifyMesh, modifyCell, Table.size_modify]

/-- Only a start that is not declined makes an incarnation. -/
theorem Deed.size {floor : Nat} {w w' : World β} (d : Deed floor w w') :
    w'.cells.size = w.cells.size ∨
      ∃ mesh id seed, w.refusal? mesh id = none ∧ w' = (w.conceive mesh id seed).2.2 := by
  cases d with
  | aside h => exact Or.inl (by rw [h.cells])
  | accept e h =>
    refine Or.inl ?_
    rw [World.accept, enlist_cells, modifyCell, Table.size_modify]
  | conceive seed h => exact Or.inr ⟨_, _, seed, h, rfl⟩
  | letIn resident outcome hfloor hc hp => exact Or.inl (size_letIn _ _ _ _ _ _)
  | openMesh name requestTimeout => exact Or.inl rfl
  | hold mesh => exact Or.inl rfl
  | release mesh =>
    unfold World.release
    dsimp only
    split
    · exact Or.inl (size_vacate _ _)
    · exact Or.inl rfl
  | beginShutdown mesh => exact Or.inl (size_vacate _ _)
  | stopCell mesh id =>
    unfold World.stopCell
    split
    · exact Or.inl rfl
    · refine Or.inl ?_
      rw [drain, enlist_cells, modifyCell, Table.size_modify]
      rfl
  | subscribe mesh emitter ids =>
    unfold World.subscribe
    split <;> exact Or.inl rfl
  | unsubscribe mesh emitter ids =>
    unfold World.unsubscribe
    split <;> exact Or.inl rfl

theorem size_conceive (w : World β) (mesh : MeshId) (id : CellId) (seed : β) :
    (w.conceive mesh id seed).2.2.cells.size = w.cells.size + 1 := by
  rw [conceive, Table.size_add]
  rfl

theorem Deed.size_le {floor : Nat} {w w' : World β} (d : Deed floor w w') :
    w.cells.size ≤ w'.cells.size := by
  rcases d.size with same | ⟨mesh, id, seed, -, rfl⟩
  · exact Nat.le_of_eq same.symm
  · rw [size_conceive]
    exact Nat.le_succ _

/-! ### Sequences of deeds -/

/-- A sequence of deeds that lets in only incarnations conceived on the way. -/
def Course (w w' : World β) : Prop := Relation.ReflTransGen (Deed w.cells.size) w w'

namespace Course

variable {w w₁ w₂ : World β}

theorem refl (w : World β) : Course w w := Relation.ReflTransGen.refl

theorem single (d : Deed w.cells.size w w₁) : Course w w₁ := Relation.ReflTransGen.single d

theorem aside (h : Aside w w₁) : Course w w₁ := single (.aside h)

theorem size_le (h : Course w w₁) : w.cells.size ≤ w₁.cells.size := by
  induction h with
  | refl => exact Nat.le_refl _
  | tail _ d ih => exact Nat.le_trans ih d.size_le

theorem trans (h : Course w w₁) (h' : Course w₁ w₂) : Course w w₂ :=
  Relation.ReflTransGen.trans h
    (Relation.ReflTransGen.mono (fun _ _ d => Deed.mono h.size_le d) _ _ h')

/-- A change of other fields may go ahead of a course. -/
theorem after (h : Course w₁ w₂) (hc : w₁.cells = w.cells) (hm : w₁.meshes = w.meshes)
    (hr : w₁.ready = w.ready) : Course w w₂ :=
  (aside (.of_eq hc hm hr)).trans h

/-- What every deed preserves, a course preserves. -/
theorem preserves {P : World β → Prop}
    (step : ∀ {floor : Nat} {w w' : World β}, Deed floor w w' → P w → P w') (h : Course w w₁)
    (hw : P w) : P w₁ := by
  induction h with
  | refl => exact hw
  | tail _ d ih => exact step d ih

theorem kept (h : Course w w₁) (key : CellKey) : KeptAt w w₁ key := by
  intro c hc
  have hk := Table.index_lt_of_get? hc
  have all : KeptAt w w₁ key := by
    induction h with
    | refl => exact .of_eq rfl
    | tail _ d ih => exact ih.trans (d.kept hk)
  exact all c hc

end Course

theorem carries_course : Carries (Course (β := β)) fun _ => True where
  refl := Course.refl
  trans := Course.trans
  accept _ _ _ _ h e _ := .single (.accept e h)
  record w bench _ := .aside (aside_record w bench _)

/-! ### Scripts -/

/-- Deeds that come after it was conceived leave an incarnation at its first call. -/
theorem nascent_conceive (w : World β) (mesh : MeshId) (id : CellId) (seed : β) {w₁ : World β}
    (calling : Course (w.conceive mesh id seed).2.2 w₁) :
    ∃ c, w₁.cells.get? w.cells.next = some c ∧ c.Nascent mesh id := by
  have born : (w.conceive mesh id seed).2.2.cells.get? w.cells.next =
      some { mesh, id, generation := (w.conceive mesh id seed).2.1, resident := seed } := by
    simp [conceive, Table.get?_add, modifyMesh]
  obtain ⟨c, hc, kept⟩ := calling.kept w.cells.next _ born
  refine ⟨c, hc, ?_, kept.mesh, kept.id, kept.calls⟩
  rcases kept.phase with hp | ⟨hp, -⟩
  · exact hp
  · cases hp

/-- The incarnation of a start is conceived, makes its first call and is let in or turned away. The
first call cannot let it in: to it the incarnation was there before. -/
theorem course_startWith (w : World β) (mesh : MeshId) (id : CellId) (seed : β)
    {firstCall : Outlet → World β → β × Outcome × World β}
    (h : ∀ outlet w, Course w (firstCall outlet w).2.2) :
    Course w (w.startWith mesh id seed firstCall).2 := by
  unfold startWith
  split
  · exact .refl w
  · rename_i free
    dsimp only
    set generation := (w.conceive mesh id seed).2.1
    set conceived := (w.conceive mesh id seed).2.2
    set called := firstCall (.cell mesh w.cells.next id generation) conceived
    have making : Course w conceived := .single (.conceive seed free)
    have calling : Course conceived called.2.2 := h _ _
    obtain ⟨c, hc, nascent⟩ := nascent_conceive w mesh id seed calling
    have letting : Deed w.cells.size called.2.2
        (called.2.2.letIn c.mesh c.id w.cells.next called.1 called.2.1).2 :=
      .letIn called.1 called.2.1 (Nat.le_refl _) hc nascent.phase
    rw [nascent.mesh, nascent.id] at letting
    exact Relation.ReflTransGen.tail (making.trans calling) letting

theorem course_perform (s : Script β) (w : World β) : Course w (perform s w).2.2 := by
  induction s generalizing w with
  | finish next outcome => exact .refl w
  | survey k ih => exact ih _ w
  | build values k ih => exact (ih _ _).after rfl rfl rfl
  | create topic values scene k ih => exact (ih _ _).after rfl rfl rfl
  | emit outlet event k ih => exact (carries_course.emit w outlet trivial).trans (ih _ _)
  | emitTo outlet target event k ih => exact (carries_course.emitTo w outlet target trivial).trans (ih _ _)
  | emitAfter outlet delay event k ih =>
    exact (Course.aside (aside_emitAfter w outlet delay event)).trans (ih _ _)
  | cancelReminder reminder k ih =>
    exact (Course.aside (aside_cancelReminder w reminder)).trans (ih _)
  | answer waiter reply k ih => exact (Course.aside (aside_answer w waiter reply)).trans (ih _ _)
  | store scene key payload k ih =>
    exact (Course.aside (aside_store w scene key payload)).trans (ih _ _)
  | start mesh id seed init k ihInit ih =>
    exact (course_startWith w mesh id seed fun outlet w => ihInit outlet w).trans (ih _ _)
  | stopMesh mesh k ih =>
    exact (Course.single (.beginShutdown mesh)).trans (ih _)

theorem course_start [Behavior β] (w : World β) (mesh : MeshId) (id : CellId) (b : β) :
    Course w (w.start mesh id b).2 :=
  course_startWith w mesh id b fun _ w => course_perform _ w

end World

end EventMesh
