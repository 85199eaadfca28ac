import EventMesh.Behavior.Actor
import EventMesh.Proofs.Mesh.Ages
import EventMesh.Proofs.Mesh.Listing
import EventMesh.Proofs.Mesh.Start

/-!
# Successors

Several incarnations may be at work under one name, of which at most one is registered. A mesh gives
out every generation once (`Numbered`), so that the registered incarnation is told from the others by
its generation; the others have nothing to give back when their loops end. Main statement: an
incarnation loses its name in one of the four ways of `Departs` only, and the end of a loop whose
incarnation has lost its name leaves meshes and all other incarnations as they are (`succession`).
-/

namespace EventMesh.World

open Function Time

variable {β : Type} {w w' : World β} {hand hand' : CellKey → Hand}

/-! ### Generations -/

/-- Each mesh gives out every generation at most once. -/
structure Numbered (w : World β) : Prop where
  given : ∀ key c, w.cells.get? key = some c →
    ∃ m, w.meshes.get? c.mesh = some m ∧ c.generation < m.nextGeneration
  distinct : ∀ key key' c c', w.cells.get? key = some c → w.cells.get? key' = some c' →
    c.mesh = c'.mesh → c.generation = c'.generation → key = key'

theorem numbered_startingAt (wall : Wall) : (startingAt wall : World β).Numbered := by
  constructor
  · intro key c hc
    rw [startingAt, Table.get?_empty] at hc
    cases hc
  · intro key key' c c' hc
    rw [startingAt, Table.get?_empty] at hc
    cases hc

/-- A step that makes no incarnation. -/
theorem Numbered.of_size (h : w.Numbered) (coherent : Each Cell.Coherent w hand)
    (s : Step w hand w' hand') (size : w'.cells.size = w.cells.size) : w'.Numbered := by
  have before : ∀ key c', w'.cells.get? key = some c' →
      ∃ c, w.cells.get? key = some c ∧ c.Ages c' := by
    intro key c' hc'
    have bound : key.index < w.cells.size := size ▸ Table.index_lt_of_get? hc'
    obtain ⟨c, hc⟩ := Table.exists_get? bound
    obtain ⟨c'', hc'', older⟩ := ages_step coherent s hc
    rw [hc'] at hc''
    cases hc''
    exact ⟨c, hc, older⟩
  constructor
  · intro key c' hc'
    obtain ⟨c, hc, older⟩ := before key c' hc'
    obtain ⟨m, hm, below⟩ := h.given key c hc
    obtain ⟨m', hm', turned⟩ := turned_step s hm
    refine ⟨m', by rw [older.mesh, hm'], ?_⟩
    rw [older.generation]
    exact Nat.lt_of_lt_of_le below turned.generations
  · intro j k c' d' hc' hd' mesh generation
    obtain ⟨c, hc, older⟩ := before j c' hc'
    obtain ⟨d, hd, older'⟩ := before k d' hd'
    rw [older.mesh, older'.mesh] at mesh
    rw [older.generation, older'.generation] at generation
    exact h.distinct j k c d hc hd mesh generation

/-- A new incarnation gets the next generation. -/
theorem Numbered.conceive (h : w.Numbered) {mesh : MeshId} {id : CellId}
    (free : w.refusal? mesh id = none) (seed : β) : (w.conceive mesh id seed).2.2.Numbered := by
  obtain ⟨m, hm, -, -⟩ := refusal?_eq_none free
  have cells : ∀ j, (w.conceive mesh id seed).2.2.cells.get? j =
      if j = w.cells.next then
        some { mesh, id, generation := m.nextGeneration, resident := seed }
      else w.cells.get? j := by
    intro j
    simp only [World.conceive, modifyMesh, Table.get?_add, hm, Option.map_some, Option.getD_some]
  have meshes : ∀ j, (w.conceive mesh id seed).2.2.meshes.get? j =
      if mesh = j then (w.meshes.get? j).map fun m =>
        { m with nextGeneration := m.nextGeneration + 1 }
      else w.meshes.get? j :=
    fun j => Table.get?_modify _ _ _ _
  -- Those that were there have a generation below the one that is given out now.
  have fresh : ∀ j c, w.cells.get? j = some c → c.mesh = mesh →
      c.generation < m.nextGeneration := by
    rintro j c hc rfl
    obtain ⟨m₀, hm₀, below⟩ := h.given j c hc
    rw [hm] at hm₀
    cases hm₀
    exact below
  constructor
  · intro j c hc
    rw [cells] at hc
    split at hc
    · cases hc
      exact ⟨{ m with nextGeneration := m.nextGeneration + 1 }, by rw [meshes, if_pos rfl, hm]; rfl,
        Nat.lt_succ_self _⟩
    · obtain ⟨m₀, hm₀, below⟩ := h.given j c hc
      rw [meshes, hm₀]
      split
      · exact ⟨_, rfl, Nat.lt_succ_of_lt below⟩
      · exact ⟨m₀, rfl, below⟩
  · intro j k c d hc hd same_mesh same_generation
    rw [cells] at hc hd
    split at hc
    · rename_i hj
      split at hd
      · rename_i hk
        rw [hj, hk]
      · cases hc
        have below := fresh k d hd same_mesh.symm
        dsimp only at same_generation
        omega
    · split at hd
      · cases hd
        have below := fresh j c hc same_mesh
        dsimp only at same_generation
        omega
      · exact h.distinct j k c d hc hd same_mesh same_generation

/-- **No step gives out a generation twice.** -/
theorem numbered_step (coherent : Each Cell.Coherent w hand) (s : Step w hand w' hand')
    (h : w.Numbered) : w'.Numbered := by
  rcases s.size with same | ⟨mesh, id, seed, free, rfl⟩
  · exact h.of_size coherent s same
  · exact h.conceive free seed

theorem numbered_steps {wall : Wall} (h : Steps (startingAt wall) atRest w hand) :
    w.Numbered := by
  have both : Each Cell.Coherent w hand ∧ w.Numbered := by
    refine h.preserves (P := fun w hand => Each Cell.Coherent w hand ∧ w.Numbered) ?_
      ⟨each_startingAt wall, numbered_startingAt wall⟩
    intro w w' hand hand' s ⟨coherent, numbered⟩
    exact ⟨Each.step Cell.Coherent.invariant s coherent, numbered_step coherent s numbered⟩
  exact both.2

/-! ### Names that are lost -/

/-- **A registered incarnation keeps its name, or departs.** -/
theorem kept_or_departs (s : Step w hand w' hand') {mesh : MeshId} {id : CellId} {key : CellKey}
    (hk : w.lookUp mesh id = some key) :
    w'.lookUp mesh id = some key ∨ Departs w hand w' mesh id key := by
  cases relisted_step s mesh with
  | kept names => exact Or.inl (by rw [names, hk])
  | entered i j free names =>
    refine Or.inl ?_
    rw [names, if_neg, hk]
    rintro rfl
    rw [hk] at free
    cases free
  | @left i j named why names =>
    by_cases hi : i = id
    · subst hi
      rw [hk] at named
      cases named
      exact Or.inr why
    · exact Or.inl (by rw [names, if_neg hi, hk])
  | vacated why => exact Or.inr (why id key hk)
  | subscribed emitter ids done known names => exact Or.inl (by rw [names, hk])
  | unsubscribed emitter ids done names => exact Or.inl (by rw [names, hk])

/-- The end of a loop whose incarnation is not registered. -/
theorem leave_of_unregistered {key : CellKey} {c c' : Cell β} (hc : w.cells.get? key = some c)
    (left : Cell.Left (hand key) c c') (superseded : w.lookUp c.mesh c.id ≠ some key) :
    (w.put key c').deregister key = w.put key c' := by
  obtain ⟨-, hmesh, hid⟩ := left.ended
  have hc' : (w.put key c').cells.get? key = some c' := by rw [get?_put hc, if_pos rfl]
  refine deregister_eq_self hc' ?_
  rw [hmesh, hid]
  exact superseded

/-! ### Successors -/

variable [Behavior β]

/-- How incarnations of one name follow each other. -/
structure Succession (w : World β) (hand : CellKey → Hand) : Prop where
  /-- No two incarnations of a mesh have the same generation. -/
  distinct : ∀ key key' c c', w.cells.get? key = some c → w.cells.get? key' = some c' →
    c.mesh = c'.mesh → c.generation = c'.generation → key = key'
  /-- An incarnation keeps its mesh, its name and its generation for good. -/
  lasting : ∀ {w' : World β} {hand' : CellKey → Hand}, Steps w hand w' hand' →
    ∀ key c, w.cells.get? key = some c → ∃ c', w'.cells.get? key = some c' ∧
      c'.mesh = c.mesh ∧ c'.id = c.id ∧ c'.generation = c.generation
  /-- A start that succeeds registers an incarnation that was not there before. -/
  started : ∀ mesh id seed, (w.start mesh id seed).1 = .ok () →
    w.cells.get? w.cells.next = none ∧ (w.start mesh id seed).2.lookUp mesh id = some w.cells.next ∧
      ∃ c, (w.start mesh id seed).2.cells.get? w.cells.next = some c ∧ c.mesh = mesh ∧ c.id = id ∧
        c.phase = .running
  /-- The registered incarnation is the one whose generation is that of the registered one. -/
  told : ∀ key c, w.cells.get? key = some c →
    (w.lookUp c.mesh c.id = some key ↔ ∃ j d, w.lookUp c.mesh c.id = some j ∧
      w.cells.get? j = some d ∧ d.generation = c.generation)
  /-- A registered incarnation loses its name in four ways only. -/
  departs : ∀ {w' : World β} {hand' : CellKey → Hand}, Step w hand w' hand' →
    ∀ mesh id key, w.lookUp mesh id = some key →
      w'.lookUp mesh id = some key ∨ Departs w hand w' mesh id key
  /-- The end of any other loop leaves registries, routes and the other incarnations alone. -/
  exits : ∀ key c c', w.cells.get? key = some c → Cell.Left (hand key) c c' →
    w.lookUp c.mesh c.id ≠ some key →
      ((w.put key c').deregister key).meshes = w.meshes ∧
        ∀ j, j ≠ key → ((w.put key c').deregister key).cells.get? j = w.cells.get? j

omit [Behavior β] in
theorem lookUp_iff_generation (orderly : w.Orderly) (numbered : w.Numbered) {key : CellKey}
    {c : Cell β} (hc : w.cells.get? key = some c) :
    w.lookUp c.mesh c.id = some key ↔ ∃ j d, w.lookUp c.mesh c.id = some j ∧
      w.cells.get? j = some d ∧ d.generation = c.generation := by
  constructor
  · intro named
    exact ⟨key, c, named, hc, rfl⟩
  · rintro ⟨j, d, named, hd, generation⟩
    obtain ⟨d', hd', mesh, -, -⟩ := orderly.found _ _ j named
    rw [hd] at hd'
    cases hd'
    rw [named, numbered.distinct j key d c hd hc mesh generation]

/-- A start that succeeds registers its own incarnation. -/
theorem lookUp_start {mesh : MeshId} {id : CellId} {seed : β}
    (h : (w.start mesh id seed).1 = .ok ()) :
    (w.start mesh id seed).2.lookUp mesh id = some w.cells.next ∧
      ∃ c, (w.start mesh id seed).2.cells.get? w.cells.next = some c ∧ c.mesh = mesh ∧ c.id = id ∧
        c.phase = .running := by
  have started := started_start w mesh id seed
  generalize w.start mesh id seed = result at h started
  obtain ⟨r, after⟩ := result
  dsimp only at h started ⊢
  subst h
  cases started with
  | @letIn w₁ c calling hc nascent resident free =>
    obtain ⟨m, hm, -, -⟩ := refusal?_eq_none free
    have named := lookUp_register (w₁.put w.cells.next (c.after (.init .done) resident)) hm id
      w.cells.next mesh id
    rw [if_pos ⟨rfl, rfl⟩] at named
    refine ⟨named, { c.after (.init .done) resident with phase := .running }, ?_, nascent.mesh,
      nascent.id, rfl⟩
    rw [get?_register, if_pos rfl, get?_put hc, if_pos rfl]
    rfl

/-- **An old incarnation goes without disturbing its successor.** After any steps of any loops and
any deeds of anybody (runs among them: `steps_run`) every incarnation has a generation of its own, a
registered one loses its name because its cell is stopped, its own loop ends, or its mesh is shut
down or let go of, and the loop of one that is not registered ends without a trace in registries,
routes and other incarnations. -/
theorem succession (wall : Wall) (h : Steps (startingAt wall) atRest w hand) :
    w.Succession hand := by
  have coherent := h.each Cell.Coherent.invariant
  have numbered := numbered_steps h
  refine ⟨numbered.distinct, ?_, ?_, ?_, ?_, ?_⟩
  · intro w' hand' later key c hc
    obtain ⟨c', hc', older⟩ := ages_steps coherent later hc
    exact ⟨c', hc', older.mesh, older.id, older.generation⟩
  · intro mesh id seed succeeded
    exact ⟨Table.get?_next _, lookUp_start succeeded⟩
  · intro key c hc
    exact lookUp_iff_generation (orderly_steps h) numbered hc
  · intro w' hand' s mesh id key hk
    exact kept_or_departs s hk
  · intro key c c' hc left superseded
    rw [leave_of_unregistered hc left superseded]
    refine ⟨rfl, fun j hj => ?_⟩
    rw [get?_put hc, if_neg (Ne.symm hj)]

/-- A cell that was stopped and started again while its first incarnation still drains; the new one
has a subscriber and an event in its queue. -/
def restarted : World (Resident Actor) :=
  (startingAt ⟨0, 0⟩).run [
    .openMesh "mesh" (.ofMillis 1000),
    .start ⟨0⟩ ⟨"a"⟩ (.custom { rules := [] }),
    .start ⟨0⟩ ⟨"b"⟩ (.custom { rules := [] }),
    .stopCell ⟨0⟩ ⟨"a"⟩,
    .start ⟨0⟩ ⟨"a"⟩ (.custom { rules := [] }),
    .subscribe ⟨0⟩ ⟨"a"⟩ [⟨"b"⟩],
    .emitNew ⟨0⟩ ⟨"a"⟩ "x" .empty]

/-- The first incarnation has nothing left to handle; its loop ends and the second one stays. -/
theorem succession_restarted : ∃ c, restarted.cells.get? ⟨0⟩ = some c ∧
    restarted.lookUp ⟨0⟩ ⟨"a"⟩ = some ⟨2⟩ ∧ restarted.subscribers ⟨0⟩ ⟨"a"⟩ = [⟨"b"⟩] ∧
    ∃ c', Cell.Left .idle c c' ∧
      ((restarted.put ⟨0⟩ c').deregister ⟨0⟩).meshes = restarted.meshes ∧
      ((restarted.put ⟨0⟩ c').deregister ⟨0⟩).cells.get? ⟨2⟩ = restarted.cells.get? ⟨2⟩ := by
  have draining : ∃ c, restarted.cells.get? ⟨0⟩ = some c ∧ c.phase = .draining ∧ c.queue = [] ∧
      c.mesh = ⟨0⟩ ∧ c.id = ⟨"a"⟩ := ⟨_, rfl, rfl, rfl, rfl, rfl⟩
  obtain ⟨c, hc, hp, hq, hmesh, hid⟩ := draining
  have named : restarted.lookUp ⟨0⟩ ⟨"a"⟩ = some ⟨2⟩ := rfl
  have left : Cell.Left .idle c { c with phase := .ended, queue := [] } := .drained hp hq
  have superseded : restarted.lookUp c.mesh c.id ≠ some ⟨0⟩ := by
    rw [hmesh, hid, named]
    nofun
  have steps : Steps (startingAt ⟨0, 0⟩) atRest restarted atRest := steps_run _ _
  have quiet := (succession ⟨0, 0⟩ steps).exits ⟨0⟩ c _ hc left superseded
  exact ⟨c, hc, named, rfl, _, left, quiet.1, quiet.2 ⟨2⟩ (by nofun)⟩

end EventMesh.World
