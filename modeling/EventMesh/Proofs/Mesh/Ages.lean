import EventMesh.Proofs.Mesh.Settled
import EventMesh.Proofs.Mesh.Upkeep

/-!
# The ages of incarnations and meshes

An incarnation keeps its mesh, its name and its generation, what it accepted and the calls it made
are only added to, and its phase moves on along `Phase.Next` and never back (`Cell.Ages`). Main
statements: every step lets each incarnation age (`ages_step`), and so do any number of steps
(`ages_steps`); a final phase is kept (`Phase.Reaches.eq_of_final`), and nobody runs but the young
and those that ran before (`Phase.Reaches.of_running`). A mesh never goes back on the generations it
gave out or on a shutdown, and it is empty at once when its last holder lets go (`turned_step`).
-/

namespace EventMesh

namespace Phase

/-- One phase right after another. -/
inductive Next : Phase → Phase → Prop
  | refused : Next .starting .refused
  | running : Next .starting .running
  | draining : Next .running .draining
  | ended {p : Phase} (going : p = .running ∨ p = .draining) : Next p .ended
  | crashed {p : Phase} (going : p = .running ∨ p = .draining) : Next p .crashed

/-- One phase in time after another, or the same. -/
abbrev Reaches : Phase → Phase → Prop := Relation.ReflTransGen Next

/-- Whether nothing comes after a phase. -/
def IsFinal (p : Phase) : Prop := p = .refused ∨ p = .ended ∨ p = .crashed

variable {p q : Phase}

theorem Next.not_final (h : Next p q) : ¬ p.IsFinal := by
  cases h with
  | refused => simp [IsFinal]
  | running => simp [IsFinal]
  | draining => simp [IsFinal]
  | ended going => rcases going with rfl | rfl <;> simp [IsFinal]
  | crashed going => rcases going with rfl | rfl <;> simp [IsFinal]

theorem Reaches.eq_of_final (h : Reaches p q) (final : p.IsFinal) : q = p := by
  rcases Relation.ReflTransGen.cases_head h with same | ⟨next, first, -⟩
  · exact same.symm
  · exact absurd final first.not_final

/-- Nobody starts twice. -/
theorem Reaches.of_starting (h : Reaches p .starting) : p = .starting := by
  rcases Relation.ReflTransGen.cases_tail h with same | ⟨before, -, last⟩
  · exact same.symm
  · cases last

theorem Reaches.of_running (h : Reaches p .running) : p = .starting ∨ p = .running := by
  rcases Relation.ReflTransGen.cases_tail h with same | ⟨before, earlier, last⟩
  · exact Or.inr same.symm
  · cases last with
    | running => exact Or.inl (Reaches.of_starting earlier)

theorem Reaches.of_refused (h : Reaches p .refused) : p = .starting ∨ p = .refused := by
  rcases Relation.ReflTransGen.cases_tail h with same | ⟨before, earlier, last⟩
  · exact Or.inr same.symm
  · cases last with
    | refused => exact Or.inl (Reaches.of_starting earlier)

/-- Whoever drains goes on to drain, or its loop is over. -/
theorem Reaches.from_draining (h : Reaches .draining q) : q = .draining ∨ q = .ended ∨ q = .crashed := by
  rcases Relation.ReflTransGen.cases_head h with same | ⟨next, first, later⟩
  · exact Or.inl same.symm
  · cases first with
    | ended => exact Or.inr (Or.inl (Reaches.eq_of_final later (Or.inr (Or.inl rfl))))
    | crashed => exact Or.inr (Or.inr (Reaches.eq_of_final later (Or.inr (Or.inr rfl))))

end Phase

namespace Cell

variable {β : Type} {c c₁ c₂ c' : Cell β} {hand next : Hand}

theorem isOver_iff : c.isOver = true ↔ c.phase = .ended ∨ c.phase = .crashed := by
  simp [isOver]

theorem isFinal_of_isOver (h : c.isOver = true) : c.phase.IsFinal :=
  Or.inr (isOver_iff.mp h)

/-- What an incarnation is later on. -/
structure Ages (c c' : Cell β) : Prop where
  mesh : c'.mesh = c.mesh
  id : c'.id = c.id
  generation : c'.generation = c.generation
  accepted : c.accepted <+: c'.accepted
  calls : c.calls <+: c'.calls
  phase : Phase.Reaches c.phase c'.phase

namespace Ages

theorem refl (c : Cell β) : c.Ages c := ⟨rfl, rfl, rfl, List.prefix_rfl, List.prefix_rfl, .refl⟩

theorem trans (h : c.Ages c₁) (h' : c₁.Ages c₂) : c.Ages c₂ :=
  ⟨h'.mesh.trans h.mesh, h'.id.trans h.id, h'.generation.trans h.generation,
    h.accepted.trans h'.accepted, h.calls.trans h'.calls,
    Relation.ReflTransGen.trans h.phase h'.phase⟩

theorem accept (c : Cell β) (e : Event) : c.Ages (c.accept e) :=
  ⟨rfl, rfl, rfl, List.prefix_append _ _, List.prefix_rfl, .refl⟩

theorem after (c : Cell β) (call : Call) (resident : β) : c.Ages (c.after call resident) :=
  ⟨rfl, rfl, rfl, List.prefix_rfl, List.prefix_append _ _, .refl⟩

/-- The next phase, with any queue. -/
theorem enter (c : Cell β) {phase : Phase} (h : Phase.Next c.phase phase) (queue : List Event) :
    c.Ages { c with phase, queue } :=
  ⟨rfl, rfl, rfl, List.prefix_rfl, List.prefix_rfl, Relation.ReflTransGen.single h⟩

theorem close (c : Cell β) : c.Ages c.close := by
  unfold Cell.close
  split
  · rename_i hp
    have running : c.phase = .running := by simpa using hp
    exact .enter c (by rw [running]; exact .draining) c.queue
  · exact .refl c

/-- Whatever befalls an incarnation; only a loop that still goes on breaks off or gives up. -/
theorem befell (coherent : c.Coherent hand) (h : Befell hand c next c') : c.Ages c' := by
  cases h with
  | spared => exact .refl c
  | accepted _ _ e => exact .accept c e
  | closed => exact .close c
  | turnedAway _ hp outcome resident =>
    refine (Ages.after c (.init outcome) resident).trans (.enter _ ?_ _)
    rw [show (c.after (.init outcome) resident).phase = .starting from hp]
    exact .refused
  | letIn _ hp resident =>
    refine (Ages.after c (.init .done) resident).trans (.enter _ ?_ _)
    rw [show (c.after (.init .done) resident).phase = .starting from hp]
    exact .running
  | worked h =>
    cases h with
    | take => exact ⟨rfl, rfl, rfl, List.prefix_rfl, List.prefix_rfl, .refl⟩
    | handled c e outcome resident => exact .after c _ resident
    | recovered c fault resident => exact .after c _ resident
    | brokeOff c fault p resident =>
      have going := coherent.goes_on (by nofun) (by nofun)
      have called := Ages.after c (.recover fault (.panicked p)) resident
      exact called.trans (.enter (c.after _ resident) (.crashed going) [])
    | terminated c outcome resident => exact .after c _ resident
  | left h =>
    cases h with
    | gaveUp c fault err resident =>
      have going := coherent.goes_on (by nofun) (by nofun)
      have called := Ages.after c (.recover fault (.failed err)) resident
      exact called.trans (.enter (c.after _ resident) (.ended going) [])
    | drained hp hq => exact .enter c (.ended (Or.inr hp)) []

end Ages

end Cell

namespace World

variable {β : Type} {w w' : World β} {hand hand' : CellKey → Hand} {key : CellKey} {c : Cell β}

/-- **Every step lets each incarnation age.** -/
theorem ages_step (coherent : Each Cell.Coherent w hand) (s : Step w hand w' hand')
    (hc : w.cells.get? key = some c) : ∃ c', w'.cells.get? key = some c' ∧ c.Ages c' := by
  obtain ⟨c', hc', befell⟩ := befell_step s hc
  exact ⟨c', hc', .befell (coherent.cells key c hc) befell⟩

/-- **An incarnation ages, whatever happens.** -/
theorem ages_steps (coherent : Each Cell.Coherent w hand) (h : Steps w hand w' hand')
    (hc : w.cells.get? key = some c) : ∃ c', w'.cells.get? key = some c' ∧ c.Ages c' := by
  induction h with
  | refl => exact ⟨c, hc, .refl c⟩
  | tail before s ih =>
    obtain ⟨c₁, hc₁, older⟩ := ih
    have still := coherent.steps Cell.Coherent.invariant before
    obtain ⟨c₂, hc₂, oldest⟩ := ages_step still s hc₁
    exact ⟨c₂, hc₂, older.trans oldest⟩

/-- Only a start that is not declined makes an incarnation. -/
theorem Step.size (s : Step w hand w' hand') :
    w'.cells.size = w.cells.size ∨
      ∃ mesh id seed, w.refusal? mesh id = none ∧ w' = (w.conceive mesh id seed).2.2 := by
  cases s with
  | deed d => exact d.size
  | work hc worked => exact Or.inl (Table.size_modify _ _ _)
  | leave hc left =>
    refine Or.inl ?_
    rw [deregister_cells]
    exact Table.size_modify _ _ _
  | dismiss => exact Or.inl rfl

/-- Every incarnation was there before a step and aged, or its start has just begun. -/
theorem aged_or_born (coherent : Each Cell.Coherent w hand) (s : Step w hand w' hand')
    {c' : Cell β} (hc' : w'.cells.get? key = some c') :
    (∃ c, w.cells.get? key = some c ∧ c.Ages c') ∨
      c'.phase = .starting ∧ w.refusal? c'.mesh c'.id = none := by
  cases hc : w.cells.get? key with
  | some c =>
    obtain ⟨c₁, hc₁, older⟩ := ages_step coherent s hc
    cases hc'.symm.trans hc₁
    exact Or.inl ⟨c, rfl, older⟩
  | none =>
    have outside : ¬ key.index < w.cells.size := fun bound => by
      obtain ⟨c, known⟩ := Table.exists_get? bound
      rw [hc] at known
      cases known
    have inside := Table.index_lt_of_get? hc'
    rcases s.size with same | ⟨mesh, id, seed, free, rfl⟩
    · omega
    · simp only [conceive, modifyMesh, Table.get?_add, hc] at hc'
      split at hc'
      · cases hc'
        exact Or.inr ⟨rfl, free⟩
      · cases hc'

end World

/-! ### Meshes -/

/-- What a mesh is one step later. -/
structure Mesh.Turned (m m' : Mesh) : Prop where
  generations : m.nextGeneration ≤ m'.nextGeneration
  stopping : m.stopping = true → m'.stopping = true
  vacated : m.isAlive = true → m'.isAlive = false → m'.registry = []

namespace Mesh.Turned

variable {m m' : Mesh}

/-- Nobody lets go of the mesh. -/
theorem of_held (generations : m.nextGeneration ≤ m'.nextGeneration)
    (stopping : m.stopping = true → m'.stopping = true) (held : m.holders ≤ m'.holders) :
    m.Turned m' := by
  refine ⟨generations, stopping, ?_⟩
  intro alive gone
  simp only [Mesh.isAlive, gt_iff_lt, decide_eq_true_eq, decide_eq_false_iff_not] at alive gone
  omega

theorem of_same (generations : m'.nextGeneration = m.nextGeneration)
    (stopping : m'.stopping = m.stopping) (holders : m'.holders = m.holders) : m.Turned m' :=
  of_held (Nat.le_of_eq generations.symm) (fun still => stopping.trans still)
    (Nat.le_of_eq holders.symm)

/-- Whatever befalls a mesh. -/
theorem befell {finished : CellKey → Bool} (h : m.Befell finished m') : m.Turned m' := by
  have still := h.stopping
  cases h with
  | spared | entered | left | rerouted => exact of_same rfl rfl rfl
  | numbered => exact of_held (Nat.le_succ _) still (Nat.le_refl _)
  | held => exact of_held (Nat.le_refl _) still (Nat.le_succ _)
  | released others =>
    refine ⟨Nat.le_refl _, still, fun _ gone => ?_⟩
    simp only [Mesh.isAlive, gt_iff_lt, decide_eq_false_iff_not] at gone
    exact absurd others gone
  | deserted | shutDown => exact ⟨Nat.le_refl _, still, fun _ _ => rfl⟩

end Mesh.Turned

namespace World

variable {β : Type} {w w' : World β} {hand hand' : CellKey → Hand}

/-- **Every mesh is still there, one step later.** -/
theorem turned_step (s : Step w hand w' hand') {mesh : MeshId} {m : Mesh}
    (hm : w.meshes.get? mesh = some m) :
    ∃ m', w'.meshes.get? mesh = some m' ∧ m.Turned m' := by
  obtain ⟨m', hm', befell⟩ := upkept_step s mesh m hm
  exact ⟨m', hm', .befell befell⟩

/-- A shutdown that has begun is not taken back. -/
theorem stopping_steps (h : Steps w hand w' hand') {mesh : MeshId} {m : Mesh}
    (hm : w.meshes.get? mesh = some m) (stopping : m.stopping = true) :
    ∃ m', w'.meshes.get? mesh = some m' ∧ m'.stopping = true := by
  induction h with
  | refl => exact ⟨m, hm, stopping⟩
  | tail _ s ih =>
    obtain ⟨m₁, hm₁, before⟩ := ih
    obtain ⟨m₂, hm₂, turned⟩ := turned_step s hm₁
    exact ⟨m₂, hm₂, turned.stopping before⟩

end World

end EventMesh
