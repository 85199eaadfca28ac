import EventMesh.Proofs.Mesh.CallOrder
import EventMesh.Proofs.Mesh.Delivery

/-!
# Draining

What becomes of a queue that is closed. Nothing enters it any more (`Befell.accepted_eq`), each turn
of the cell takes the oldest event out of it and hands it to the behavior (`exists_next_call`), and
the turn after the last event makes the last call. Main statement: a cell that drains comes to its end
in any run that gives it more turns than there are events left in its queue (`drains_run`).
-/

namespace EventMesh

namespace Cell

variable {β : Type} {hand next : Hand} {c c' : Cell β}

/-- Only an incarnation that runs takes events. -/
theorem Befell.accepted_eq (h : Befell hand c next c') (closed : c.phase ≠ .running) :
    c'.accepted = c.accepted := by
  cases h with
  | spared => rfl
  | accepted _ running => exact absurd running closed
  | closed => exact c.accepted_close
  | turnedAway => rfl
  | letIn => rfl
  | worked h => exact h.accepted
  | left h => exact h.accepted

/-- Between calls a loop that goes on has handled what it accepted, up to its queue. -/
theorem Balanced.length_accepted (h : c.Balanced .idle) (live : c.isOver = false) :
    c.accepted.length = c.handled.length + c.queue.length := by
  rw [h.all_kept live, Hand.taken, List.append_nil, List.length_append]

theorem handled_prefix (h : c.calls <+: c'.calls) : c.handled <+: c'.handled := h.filterMap _

end Cell

/-- Whether a move is a turn of a cell. -/
def World.Move.isTurnOf {β : Type} (key : CellKey) : Move β → Bool
  | .turn (.cell j) => j = key
  | _ => false

namespace World

open Function

variable {β : Type} [Behavior β] {w : World β} {key : CellKey} {c : Cell β}

/-- **A turn of a cell hands it the oldest event of its queue.** -/
theorem exists_next_call (coherent : Each Cell.Coherent w atRest)
    (hc : w.cells.get? key = some c) (going : c.phase = .running ∨ c.phase = .draining) {e : Event}
    {rest : List Event} (hq : c.queue = e :: rest) :
    ∃ c' outcome, (w.stepCell key).cells.get? key = some c' ∧
      c.calls ++ [.process e outcome] <+: c'.calls := by
  have turn : w.stepCell key = w.handle key c.resident e := by
    unfold stepCell
    rw [hc]
    dsimp only
    rcases going with hp | hp <;> rw [hp, hq]
  set taken := w.put key { c with queue := c.queue.tail }
  have known : taken.cells.get? key = some { c with queue := c.queue.tail } := by
    rw [get?_put hc, if_pos rfl]
  have taking : Steps w atRest taken (update atRest key (.event e)) :=
    Steps.refl.tail (.work hc (.take going hq))
  have calling := course_perform (Behavior.process c.resident e) taken
  obtain ⟨c₂, hc₂, kept⟩ := calling.kept key _ known
  rw [turn, handle, modifyCell_eq_put hc]
  generalize perform (Behavior.process c.resident e) taken = result at calling hc₂ ⊢
  obtain ⟨resident, outcome, w₂⟩ := result
  dsimp only at calling hc₂ ⊢
  rw [modifyCell_eq_put hc₂]
  have handled : Steps w atRest (w₂.put key (c₂.after (.process e outcome) resident))
      (update atRest key (.afterEvent outcome)) :=
    tracks_steps.after_work (taking.course calling) hc₂ (.handled c₂ e outcome resident)
  have at_ : (w₂.put key (c₂.after (.process e outcome) resident)).cells.get? key =
      some (c₂.after (.process e outcome) resident) := by
    rw [get?_put hc₂, if_pos rfl]
  have told : c.calls ++ [.process e outcome] = (c₂.after (.process e outcome) resident).calls :=
    congrArg (· ++ [Call.process e outcome]) kept.calls.symm
  cases outcome with
  | done => exact ⟨_, .done, at_, told ▸ List.prefix_rfl⟩
  | failed err => exact ⟨_, .failed err, at_, told ▸ List.prefix_rfl⟩
  | panicked p =>
    have sound := coherent.steps Cell.Coherent.invariant handled
    set rescuing := update atRest key (Hand.fault (.panicked p.text))
    have rescue : Steps _ rescuing _ (update rescuing key .idle) :=
      tracks_steps.rescue resident (.panicked p.text) (by rw [update_idem]; exact .refl) at_
    obtain ⟨c', hc', older⟩ := ages_steps sound rescue at_
    exact ⟨c', _, hc', told ▸ older.calls⟩

omit [Behavior β] in
/-- Whoever does not run meanwhile accepts nothing. -/
theorem accepted_steps {w' : World β} {hand hand' : CellKey → Hand} (h : Steps w hand w' hand')
    (hc : w.cells.get? key = some c)
    (closed : ∀ {w₁ hand₁ c₁}, Steps w hand w₁ hand₁ → w₁.cells.get? key = some c₁ →
      c₁.phase ≠ .running) :
    ∃ c', w'.cells.get? key = some c' ∧ c'.accepted = c.accepted := by
  induction h with
  | refl => exact ⟨c, hc, rfl⟩
  | tail before s ih =>
    obtain ⟨c₁, hc₁, same⟩ := ih
    obtain ⟨c₂, hc₂, befell⟩ := befell_step s hc₁
    exact ⟨c₂, hc₂, (befell.accepted_eq (closed before hc₁)).trans same⟩

/-- After a move a cell that drained is over, or it goes on with no more in its queue than before, and
with less if it had its turn. -/
theorem draining_act (coherent : Each Cell.Coherent w atRest) (books : Each Cell.Balanced w atRest)
    (hc : w.cells.get? key = some c) (draining : c.phase = .draining) (m : Move β) :
    ∃ c', (w.act m).cells.get? key = some c' ∧ (c'.isOver = true ∨ c'.phase = .draining ∧
      c'.queue.length + (if m.isTurnOf key then 1 else 0) ≤ c.queue.length) := by
  have steps := steps_act w m
  have going {w₁ : World β} {hand₁ : CellKey → Hand} {c₁ : Cell β} (earlier : Steps w atRest w₁ hand₁)
      (hc₁ : w₁.cells.get? key = some c₁) : c₁.phase = .draining ∨ c₁.isOver = true := by
    obtain ⟨c₂, hc₂, older⟩ := ages_steps coherent earlier hc
    cases hc₁.symm.trans hc₂
    have reached := older.phase
    rw [draining] at reached
    exact reached.from_draining.imp_right Cell.isOver_iff.mpr
  obtain ⟨c', hc', older⟩ := ages_steps coherent steps hc
  refine ⟨c', hc', (going steps hc').symm.imp id fun still => ⟨still, ?_⟩⟩
  obtain ⟨c'', hc'', same⟩ := accepted_steps steps hc fun earlier hc₁ running => by
    rcases going earlier hc₁ with still | finished
    · rw [running] at still
      cases still
    · rw [Cell.isOver, running] at finished
      cases finished
  cases hc'.symm.trans hc''
  -- What was accepted and not handled yet is what waits, before the move and after it.
  have later := (books.steps Cell.Balanced.invariant steps).cells key c' hc'
  have waits := (books.cells key c hc).length_accepted
    (Cell.Balanced.isOver_eq_false draining (by decide))
  have waits' := later.length_accepted (Cell.Balanced.isOver_eq_false still (by decide))
  rw [same] at waits'
  split
  · rename_i own
    have turned : w.act m = w.stepCell key := by
      cases m with
      | turn j =>
        cases j with
        | cell j =>
          have same : j = key := by simpa [Move.isTurnOf] using own
          rw [same]
          rfl
        | task t => cases own
      | _ => cases own
    rw [turned] at hc'
    cases hq : c.queue with
    | nil =>
      obtain ⟨c₁, outcome, hc₁, ended, -⟩ := stepCell_drained hc draining hq
      cases hc'.symm.trans hc₁
      rw [still] at ended
      cases ended
    | cons e rest =>
      obtain ⟨c₁, outcome, hc₁, told⟩ := exists_next_call coherent hc (Or.inr draining) hq
      cases hc'.symm.trans hc₁
      have grown := (Cell.handled_prefix (c := c.after (.process e outcome) c.resident) told).length_le
      rw [Cell.handled_after_process, List.length_append, List.length_singleton] at grown
      rw [← hq]
      omega
  · have grown := (Cell.handled_prefix older.calls).length_le
    omega

/-- **A cell that drains comes to its end** in any run that gives it more turns than there are events
left in its queue. -/
theorem drains_run {moves : List (Move β)} (coherent : Each Cell.Coherent w atRest)
    (books : Each Cell.Balanced w atRest) (hc : w.cells.get? key = some c)
    (draining : c.phase = .draining) (turns : c.queue.length < moves.countP (·.isTurnOf key)) :
    ∃ c', (w.run moves).cells.get? key = some c' ∧ c'.isOver = true := by
  induction moves generalizing w c with
  | nil => exact absurd turns (Nat.not_lt_zero _)
  | cons m moves ih =>
    have steps := steps_act w m
    rw [run_cons]
    obtain ⟨c', hc', finished | ⟨still, fewer⟩⟩ := draining_act coherent books hc draining m
    · have ended := final_steps (steps_run (w.act m) moves) hc' (Cell.isFinal_of_isOver finished) rfl
      exact ⟨c', ended.1, finished⟩
    · refine ih (coherent.steps Cell.Coherent.invariant steps)
        (books.steps Cell.Balanced.invariant steps) hc' still ?_
      rw [List.countP_cons] at turns
      omega

end World

end EventMesh
