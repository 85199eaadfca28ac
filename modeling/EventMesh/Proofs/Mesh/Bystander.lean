import EventMesh.Proofs.Mesh.Loop

/-!
# Bystanders

While others have their turns an incarnation bides its own: its behavior stays as it is, what waits in
its queue stays there, and events may come after it (`Cell.Bides`). Main statement: in every move but
its own turn an incarnation bides its time (`bidesAt_act`).
-/

namespace EventMesh

namespace Cell.Kept

variable {β : Type} {c c' : Cell β}

/-- A loop goes on while it makes no call. -/
theorem going (h : c.Kept c') (going : c.phase = .running ∨ c.phase = .draining) :
    c'.phase = .running ∨ c'.phase = .draining := by
  rcases h.phase with same | ⟨-, closed⟩
  · exact same ▸ going
  · exact Or.inr closed

theorem went_on (h : c.Kept c') (going : c'.phase = .running ∨ c'.phase = .draining) :
    c.phase = .running ∨ c.phase = .draining := by
  rcases h.phase with same | ⟨running, -⟩
  · exact same ▸ going
  · exact Or.inl running

/-- It comes into no other phase. -/
theorem phase_ne (h : c.Kept c') {p : Phase} (hp : c.phase ≠ p) (other : p ≠ .draining) :
    c'.phase ≠ p := by
  rcases h.phase with same | ⟨-, closed⟩
  · exact same ▸ hp
  · exact closed ▸ other.symm

end Cell.Kept

/-- What remains of an incarnation that has no turn: it may accept events, and its queue may be
closed. -/
structure Cell.Bides {β : Type} (c c' : Cell β) : Prop extends Cell.Kept c c' where
  resident : c'.resident = c.resident
  queue : c.queue <+: c'.queue

namespace Cell.Bides

variable {β : Type} {c c₁ c₂ : Cell β}

theorem refl (c : Cell β) : c.Bides c := ⟨.refl c, rfl, List.prefix_rfl⟩

theorem trans (h : c.Bides c₁) (h' : c₁.Bides c₂) : c.Bides c₂ where
  toKept := h.toKept.trans h'.toKept
  resident := h'.resident.trans h.resident
  queue := h.queue.trans h'.queue

theorem accept (c : Cell β) (e : Event) : c.Bides (c.accept e) :=
  ⟨.accept c e, rfl, List.prefix_append _ _⟩

theorem close (c : Cell β) : c.Bides c.close := by
  have same : c.close.resident = c.resident ∧ c.close.queue = c.queue := by
    unfold Cell.close
    split
    · exact ⟨rfl, rfl⟩
    · exact ⟨rfl, rfl⟩
  exact ⟨.close c, same.1, same.2 ▸ List.prefix_rfl⟩

/-- What an incarnation accepts while it bides waits in its queue. -/
theorem mem_queue (h : c.Bides c₁) (kept : c.accepted = c.handled ++ c.queue)
    (kept' : c₁.accepted = c₁.handled ++ c₁.queue) {e : Event}
    (came : e ∈ c₁.accepted.drop c.accepted.length) : e ∈ c₁.queue := by
  have handled : c₁.handled = c.handled := by
    rw [Cell.handled, h.calls, Cell.handled]
  have further : c₁.accepted.drop c.accepted.length = c₁.queue.drop c.queue.length := by
    rw [kept, kept', handled, List.length_append, List.drop_append]
    simp
  rw [further] at came
  exact List.mem_of_mem_drop came

end Cell.Bides

theorem Cell.Moved.bides {β : Type} {young : Prop} {c : Cell β} {c? : Option (Cell β)}
    (h : Cell.Moved young (some c) c?) (old : ¬ young) : ∃ c', c? = some c' ∧ c.Bides c' := by
  cases h with
  | same => exact ⟨c, rfl, .refl c⟩
  | closed => exact ⟨c.close, rfl, .close c⟩
  | turnedAway hy => exact absurd hy old
  | letIn hy => exact absurd hy old

namespace World

variable {β : Type}

/-- An incarnation that a world still has bided its time. -/
def BidesAt (key : CellKey) (w w' : World β) : Prop :=
  ∀ c, w.cells.get? key = some c → ∃ c', w'.cells.get? key = some c' ∧ c.Bides c'

section Bides

variable {w w₁ w₂ : World β} {key : CellKey}

theorem BidesAt.of_eq (h : w₁.cells.get? key = w.cells.get? key) : BidesAt key w w₁ :=
  fun c hc => ⟨c, h.trans hc, .refl c⟩

theorem composes_bidesAt (key : CellKey) : Composes (BidesAt (β := β) key) where
  refl _ := .of_eq rfl
  trans h h' := by
    intro c hc
    obtain ⟨c₁, hc₁, bided⟩ := h c hc
    obtain ⟨c₂, hc₂, bided'⟩ := h' c₁ hc₁
    exact ⟨c₂, hc₂, bided.trans bided'⟩

theorem Deed.bidesAt {floor : Nat} (d : Deed floor w w₁) (old : key.index < floor) :
    BidesAt key w w₁ := by
  intro c hc
  rcases d.moved with ⟨mesh, target, taker, e, -, rfl⟩ | moved
  · rw [get?_accept, hc]
    split
    · exact ⟨c.accept e, rfl, .accept c e⟩
    · exact ⟨c, rfl, .refl c⟩
  · have at_key := moved key
    rw [hc] at at_key
    exact at_key.bides (Nat.not_le.mpr old)

/-- A course lets in only those conceived on the way, so whoever was there bides. -/
theorem Course.bidesAt (h : Course w w₁) (key : CellKey) : BidesAt key w w₁ := by
  intro c hc
  have old := Table.index_lt_of_get? hc
  have all : BidesAt key w w₁ := by
    induction h with
    | refl => exact (composes_bidesAt key).refl w
    | tail _ d ih => exact (composes_bidesAt key).trans ih (d.bidesAt old)
  exact all c hc

end Bides

/-! ### Turns of other cells -/

/-- A relation that holds over all that the turn of one incarnation is made of: what its loop does to
the incarnation, to its mesh and to the ready jobs, and the calls of its behavior. -/
structure Hosts (R : World β → World β → Prop) (key : CellKey) : Prop extends Composes R where
  modifyCell : ∀ w f, R w (w.modifyCell key f)
  deregister : ∀ w, R w (w.deregister key)
  dismiss : ∀ w, R w (w.dismiss (.cell key))
  wake : ∀ w, R w w.wake
  perform : ∀ s w, R w (perform s w).2.2

namespace Hosts

variable {R : World β → World β → Prop} {key : CellKey} [Behavior β]

theorem finish (hosts : Hosts R key) (w : World β) (resident : β) : R w (w.finish key resident) := by
  have left := hosts.trans (hosts.modifyCell w fun c => { c with phase := .ended, queue := [] })
    (hosts.deregister _)
  have called := hosts.trans left (hosts.perform (Behavior.terminate resident) _)
  exact hosts.trans (hosts.trans called (hosts.modifyCell _ _)) (hosts.wake _)

theorem rescue (hosts : Hosts R key) (w : World β) (resident : β) (fault : BehaviorError) :
    R w (w.rescue key resident fault) := by
  have called := hosts.perform (Behavior.recover resident fault) w
  unfold World.rescue
  generalize World.perform (Behavior.recover resident fault) w = result at called ⊢
  obtain ⟨resident, outcome, w₁⟩ := result
  have told := hosts.trans called (hosts.modifyCell w₁ (·.after (.recover fault outcome) resident))
  cases outcome with
  | done => exact told
  | failed err => exact hosts.trans told (hosts.finish _ resident)
  | panicked p => exact hosts.trans (hosts.trans told (hosts.modifyCell _ _)) (hosts.wake _)

theorem handle (hosts : Hosts R key) (w : World β) (resident : β) (e : Event) :
    R w (w.handle key resident e) := by
  have called := hosts.trans (hosts.modifyCell w fun c => { c with queue := c.queue.tail })
    (hosts.perform (Behavior.process resident e) _)
  unfold World.handle
  dsimp only
  generalize World.perform (Behavior.process resident e) _ = result at called ⊢
  obtain ⟨resident, outcome, w₁⟩ := result
  have told := hosts.trans called (hosts.modifyCell w₁ (·.after (.process e outcome) resident))
  cases outcome with
  | done => exact told
  | failed err => exact told
  | panicked p => exact hosts.trans told (hosts.rescue _ resident _)

/-- **The turn of an incarnation.** -/
theorem stepCell (hosts : Hosts R key) (w : World β) : R w (w.stepCell key) := by
  unfold World.stepCell
  split
  · exact hosts.dismiss w
  · split
    · exact hosts.handle w _ _
    · exact hosts.handle w _ _
    · exact hosts.finish w _
    · exact hosts.dismiss w

end Hosts

/-- An incarnation bides its time in the turns of another. -/
theorem hosts_bidesAt {key other : CellKey} (hne : other ≠ key) :
    Hosts (BidesAt (β := β) key) other where
  toComposes := composes_bidesAt key
  modifyCell w f := .of_eq (by rw [get?_modifyCell, if_neg hne])
  deregister w := .of_eq (by rw [deregister_cells])
  dismiss _ := .of_eq rfl
  wake w := (Course.aside (aside_wake w)).bidesAt key
  perform s w := (course_perform s w).bidesAt key

/-- **In every move but its own turn an incarnation bides its time.** -/
theorem bidesAt_act [Behavior β] (w : World β) {m : Move β} {key : CellKey}
    (other : m ≠ .turn (.cell key)) : BidesAt key w (w.act m) := by
  by_cases h : ∃ j, m = .turn (.cell j)
  · obtain ⟨j, rfl⟩ := h
    have hne : j ≠ key := fun same => other (by rw [same])
    exact (hosts_bidesAt hne).stepCell w
  · exact (course_act w m fun j hm => h ⟨j, hm⟩).bidesAt key

end World

end EventMesh
