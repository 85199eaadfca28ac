import EventMesh.Behavior.Actor
import EventMesh.Proofs.Mesh.Incarnation

/-!
# Delivery

What becomes of the events that an incarnation accepts. Its books balance at every moment
(`Cell.Balanced`): what it accepted is what it handled, then what its loop has in hand, then its
queue, then what was lost, and nothing is lost but by the end of a loop whose recovery failed or
panicked. Nothing upsets the balance (`Cell.Balanced.invariant`), so events are handled in the order
of their acceptance, each once (`handled_in_order`).
-/

namespace EventMesh

/-- The event that a loop has in hand. -/
def Hand.taken : Hand → List Event
  | .event e => [e]
  | .idle | .fault _ | .last => []

@[simp] theorem Hand.taken_afterEvent (outcome : Outcome) : (afterEvent outcome).taken = [] := by
  cases outcome <;> rfl

namespace Cell

variable {β : Type} {hand hand' : Hand} {c : Cell β}

theorem Worked.accepted {c' : Cell β} (h : Worked hand c hand' c') : c'.accepted = c.accepted := by
  cases h <;> rfl

theorem Left.accepted {c' : Cell β} (h : Left hand c c') : c'.accepted = c.accepted := by
  cases h <;> rfl

/-- Whether every recovery of an incarnation succeeded. -/
def Recovered (c : Cell β) : Prop :=
  ∀ fault outcome, Call.recover fault outcome ∈ c.calls → outcome = .done

/-- One more call takes nothing back. -/
theorem Recovered.before {call : Call} {resident : β} (h : (c.after call resident).Recovered) :
    c.Recovered :=
  fun fault outcome hm => h fault outcome (List.mem_append_left _ hm)

theorem not_recovered_after {fault : BehaviorError} {outcome : Outcome} {resident : β}
    (h : outcome ≠ .done) : ¬ (c.after (.recover fault outcome) resident).Recovered :=
  fun hr => h (hr fault outcome (List.mem_append_right _ (List.mem_singleton_self _)))

/-- The books of an incarnation balance. -/
structure Balanced (hand : Hand) (c : Cell β) : Prop where
  /-- What was accepted was handled, is in hand, waits or was lost, in this order. -/
  ledger : ∃ lost, c.accepted = c.handled ++ hand.taken ++ c.queue ++ lost ∧
    (lost ≠ [] → c.isOver = true ∧ ¬ c.Recovered)
  /-- Nothing waits for a loop that is over, or is in its hand. -/
  emptied : c.isOver = true → c.queue = [] ∧ hand.taken = []

namespace Balanced

/-- While the loop is not over nothing is lost. -/
theorem all_kept (h : c.Balanced hand) (live : c.isOver = false) :
    c.accepted = c.handled ++ hand.taken ++ c.queue := by
  obtain ⟨lost, hl, hover⟩ := h.ledger
  have none_lost : lost = [] := by
    by_contra hne
    rw [(hover hne).1] at live
    cases live
  rw [hl, none_lost, List.append_nil]

/-- A balance in which nothing is lost. -/
theorem of_all_kept (h : c.accepted = c.handled ++ hand.taken ++ c.queue)
    (emptied : c.isOver = true → c.queue = [] ∧ hand.taken = []) : c.Balanced hand :=
  ⟨⟨[], by rw [h, List.append_nil], fun hne => absurd rfl hne⟩, emptied⟩

theorem isOver_eq_false {phase : Phase} (hp : c.phase = phase)
    (live : phase ≠ .ended ∧ phase ≠ .crashed) : c.isOver = false := by
  rw [isOver, hp]
  simpa using live

/-! ### Deeds -/

theorem born (mesh : MeshId) (id : CellId) (generation : Nat) (seed : β) :
    Balanced .idle { mesh, id, generation, resident := seed : Cell β } :=
  of_all_kept rfl fun _ => ⟨rfl, rfl⟩

theorem accept (h : c.Balanced hand) (hp : c.phase = .running) (e : Event) :
    (c.accept e).Balanced hand := by
  have kept := h.all_kept (isOver_eq_false hp (by decide))
  refine of_all_kept ?_ ?_
  · show c.accepted ++ [e] = c.handled ++ hand.taken ++ (c.queue ++ [e])
    rw [kept, List.append_assoc (c.handled ++ hand.taken)]
  · intro finished
    have live : (c.accept e).isOver = false := isOver_eq_false hp (by decide)
    rw [live] at finished
    cases finished

theorem close (h : c.Balanced hand) : c.close.Balanced hand := by
  unfold Cell.close
  split
  · rename_i hp
    have kept := h.all_kept (isOver_eq_false (by simpa using hp) (by decide))
    refine of_all_kept kept ?_
    rintro ⟨⟩
  · exact h

/-- The first call is judged: the incarnation is let in or turned away. -/
theorem judge (h : c.Balanced hand) (hp : c.phase = .starting) (outcome : Outcome) (resident : β)
    {phase : Phase} (judged : phase = .refused ∨ phase = .running) :
    Balanced hand { c.after (.init outcome) resident with phase } := by
  have kept := h.all_kept (isOver_eq_false hp (by decide))
  refine of_all_kept ?_ ?_
  · show c.accepted = (c.after (.init outcome) resident).handled ++ hand.taken ++ c.queue
    rw [handled_after_init, kept]
  · intro finished
    have live : phase ≠ .ended ∧ phase ≠ .crashed := by
      rcases judged with rfl | rfl
      · decide
      · decide
    have notOver : ({ c.after (.init outcome) resident with phase } : Cell β).isOver = false :=
      isOver_eq_false rfl live
    rw [notOver] at finished
    cases finished

/-! ### Steps of the loop -/

theorem take {e : Event} {rest : List Event} (h : c.Balanced .idle)
    (hp : c.phase = .running ∨ c.phase = .draining) (hq : c.queue = e :: rest) :
    Balanced (.event e) { c with queue := c.queue.tail } := by
  have live : c.isOver = false := by
    rcases hp with hp | hp
    · exact isOver_eq_false hp (by decide)
    · exact isOver_eq_false hp (by decide)
  refine of_all_kept ?_ ?_
  · show c.accepted = c.handled ++ [e] ++ c.queue.tail
    rw [h.all_kept live, hq]
    simp [Hand.taken]
  · intro finished
    rw [show c.isOver = true from finished] at live
    cases live

/-- A call that returns, other than a recovery that fails or panics: what was in hand is handled. -/
theorem call (h : c.Balanced hand) {call : Call} {resident : β}
    (handled : (c.after call resident).handled = c.handled ++ hand.taken)
    (empty : hand'.taken = []) : (c.after call resident).Balanced hand' := by
  obtain ⟨lost, hl, hover⟩ := h.ledger
  refine ⟨⟨lost, ?_, ?_⟩, fun finished => ⟨(h.emptied finished).1, empty⟩⟩
  · show c.accepted = (c.after call resident).handled ++ hand'.taken ++ c.queue ++ lost
    rw [handled, empty, List.append_nil, hl]
  · intro hne
    obtain ⟨finished, unrecovered⟩ := hover hne
    exact ⟨finished, fun hr => unrecovered hr.before⟩

/-- The end of a loop whose recovery failed or panicked: what waits is lost. -/
theorem lose (h : c.Balanced hand) (unrecovered : ¬ c.Recovered) (empty : hand.taken = [])
    (empty' : hand'.taken = []) {phase : Phase} (finished : phase = .ended ∨ phase = .crashed) :
    Balanced hand' { c with phase, queue := [] } := by
  obtain ⟨lost, hl, -⟩ := h.ledger
  refine ⟨⟨c.queue ++ lost, ?_, fun _ => ⟨?_, unrecovered⟩⟩, fun _ => ⟨rfl, empty'⟩⟩
  · show c.accepted = c.handled ++ hand'.taken ++ [] ++ (c.queue ++ lost)
    rw [hl, empty, empty', List.append_nil, List.append_nil, List.append_assoc]
  · rcases finished with rfl | rfl
    · rfl
    · rfl

/-- The end of a loop with an empty queue. -/
theorem drain (h : c.Balanced .idle) (hp : c.phase = .draining) (hq : c.queue = []) :
    Balanced .last { c with phase := .ended, queue := [] } := by
  refine of_all_kept ?_ fun _ => ⟨rfl, rfl⟩
  show c.accepted = c.handled ++ [] ++ []
  rw [h.all_kept (isOver_eq_false hp (by decide)), hq]
  rfl

theorem worked {next : Hand} {c' : Cell β} (h : c.Balanced hand) (s : Worked hand c next c') :
    c'.Balanced next := by
  cases s with
  | take hp hq => exact h.take hp hq
  | handled c e outcome resident =>
    exact h.call (handled_after_process ..) (Hand.taken_afterEvent outcome)
  | recovered c fault resident =>
    exact h.call ((handled_after_recover ..).trans (List.append_nil _).symm) rfl
  | brokeOff c fault p resident =>
    have called : (c.after (.recover fault (.panicked p)) resident).Balanced .idle :=
      h.call ((handled_after_recover ..).trans (List.append_nil _).symm) rfl
    exact called.lose (not_recovered_after nofun) rfl rfl (Or.inr rfl)
  | terminated c outcome resident =>
    exact h.call ((handled_after_terminate ..).trans (List.append_nil _).symm) rfl

theorem left {c' : Cell β} (h : c.Balanced hand) (s : Left hand c c') : c'.Balanced .last := by
  cases s with
  | gaveUp c fault err resident =>
    have called : (c.after (.recover fault (.failed err)) resident).Balanced .idle :=
      h.call ((handled_after_recover ..).trans (List.append_nil _).symm) rfl
    exact called.lose (not_recovered_after nofun) rfl rfl (Or.inl rfl)
  | drained hp hq => exact h.drain hp hq

/-- **The books of an incarnation balance throughout its life.** -/
theorem invariant : Invariant (Balanced (β := β)) where
  born := born
  accept := accept
  close := close
  judge h hp outcome resident _ judged := h.judge hp outcome resident (judged.imp_right And.left)
  worked := worked
  left := left

/-- What the books say of the handled events. -/
theorem begins_accepted (h : c.Balanced hand) : c.handled ++ hand.taken <+: c.accepted := by
  obtain ⟨lost, hl, -⟩ := h.ledger
  rw [hl, List.append_assoc _ c.queue]
  exact List.prefix_append _ _

/-- All that was accepted was handled, once the loop is over and no recovery failed. -/
theorem handled_eq (h : c.Balanced hand) (finished : c.isOver = true) (recovered : c.Recovered) :
    c.handled = c.accepted := by
  obtain ⟨lost, hl, hover⟩ := h.ledger
  obtain ⟨hq, ht⟩ := h.emptied finished
  have none_lost : lost = [] := by
    by_contra hne
    exact (hover hne).2 recovered
  rw [hl, hq, ht, none_lost]
  simp

end Balanced

end Cell

namespace World

open Function Time

variable {β : Type}

/-! ### The order of acceptance -/

/-- All that an incarnation ever accepted. -/
def acceptedBy (w : World β) (key : CellKey) : List Event :=
  ((w.cells.get? key).map (·.accepted)).getD []

/-- The events of a log that one incarnation received. -/
def received (log : List (CellKey × Event)) (key : CellKey) : List Event :=
  (log.filter (·.1 = key)).map (·.2)

/-- Between two worlds just the events of a log were put into queues, each by a delivery that found
its incarnation under a name. -/
inductive Accepts (w : World β) : List (CellKey × Event) → World β → Prop
  | refl : Accepts w [] w
  /-- Nothing enters a queue. -/
  | quiet {log : List (CellKey × Event)} {w₁ w₂ : World β} (h : Accepts w log w₁)
      (same : ∀ key, w₂.acceptedBy key = w₁.acceptedBy key) : Accepts w log w₂
  /-- One event enters the queue of the incarnation that a name leads to. -/
  | accept {log : List (CellKey × Event)} {w₁ : World β} {mesh : MeshId} {target : CellId}
      {key : CellKey} (h : Accepts w log w₁) (e : Event) (leads : w₁.route mesh target = .ok key) :
      Accepts w (log ++ [(key, e)]) (w₁.accept key e)

theorem received_append (log : List (CellKey × Event)) (key j : CellKey) (e : Event) :
    received (log ++ [(key, e)]) j = received log j ++ if key = j then [e] else [] := by
  by_cases h : key = j <;> simp [received, h]

theorem acceptedBy_accept {w : World β} {mesh : MeshId} {target : CellId} {key : CellKey}
    (leads : w.route mesh target = .ok key) (e : Event) (j : CellKey) :
    (w.accept key e).acceptedBy j = w.acceptedBy j ++ if key = j then [e] else [] := by
  obtain ⟨m, c, -, -, -, hc, -⟩ := route_ok leads
  unfold acceptedBy
  rw [get?_accept]
  split
  · rename_i hj
    rw [← hj, hc]
    rfl
  · rw [List.append_nil]

/-- **What an incarnation accepted is what it received in the log.** -/
theorem Accepts.acceptedBy {w w' : World β} {log : List (CellKey × Event)} (h : Accepts w log w')
    (key : CellKey) : w'.acceptedBy key = w.acceptedBy key ++ received log key := by
  induction h with
  | refl => exact (List.append_nil _).symm
  | quiet _ same ih => rw [same, ih]
  | accept _ e leads ih => rw [acceptedBy_accept leads, ih, received_append, List.append_assoc]

/-! ### Where nothing enters a queue -/

/-- Between the two worlds nothing enters a queue. -/
def Silent (w w' : World β) : Prop := ∀ key, w'.acceptedBy key = w.acceptedBy key

theorem Silent.of_cells {w w' : World β} (h : w'.cells = w.cells) : Silent w w' := by
  intro key
  rw [acceptedBy, h, acceptedBy]

/-- Nothing enters a queue when meshes change and queues are closed. -/
theorem clears_silent : Clears (Silent (β := β)) where
  refl _ _ := rfl
  trans h h' key := (h' key).trans (h key)
  modifyMesh _ _ _ _ := .of_cells rfl
  close w key j := by
    rw [acceptedBy, get?_modifyCell, acceptedBy]
    split
    · cases w.cells.get? j with
      | none => rfl
      | some c => exact Cell.accepted_close c
    · rfl
  enlist w j := .of_cells (enlist_cells w j)

/-- Nor when a task has its turn and sends nothing. -/
theorem polls_silent : Polls (Silent (β := β)) fun _ => False where
  toComposes := clears_silent.toComposes
  accept _ _ _ _ _ _ h := h.elim
  record w bench f := by
    unfold World.record
    split <;> exact .of_cells rfl
  dismiss _ _ := .of_cells rfl
  modifyTask _ _ _ _ := .of_cells rfl
  holdFlag _ _ _ := .of_cells rfl
  unholdFlag _ _ _ := .of_cells rfl
  request _ _ _ := .of_cells rfl
  release := clears_silent.release
  beginShutdown := clears_silent.beginShutdown

section Quiet

variable {w w' : World β} {hand hand' : CellKey → Hand}

theorem acceptedBy_of_moved {young : Prop} {key : CellKey}
    (h : Cell.Moved young (w.cells.get? key) (w'.cells.get? key)) :
    w'.acceptedBy key = w.acceptedBy key := by
  unfold acceptedBy
  generalize w.cells.get? key = c? at h ⊢
  generalize w'.cells.get? key = c?' at h ⊢
  cases h with
  | same => rfl
  | born => rfl
  | closed c => rw [Option.map_some, Option.map_some, Cell.accepted_close]
  | turnedAway => rfl
  | letIn => rfl

theorem acceptedBy_put {key : CellKey} {c c' : Cell β} (hc : w.cells.get? key = some c)
    (same : c'.accepted = c.accepted) (j : CellKey) :
    (w.put key c').acceptedBy j = w.acceptedBy j := by
  unfold acceptedBy
  rw [get?_put hc]
  split
  · rename_i hj
    rw [← hj, hc]
    exact same
  · rfl

theorem accepts_step (s : Step w hand w' hand') : ∃ log, Accepts w log w' := by
  cases s with
  | deed d =>
    rcases d.moved with ⟨mesh, target, key, e, leads, rfl⟩ | moved
    · exact ⟨_, Accepts.refl.accept e leads⟩
    · exact ⟨_, Accepts.refl.quiet fun key => acceptedBy_of_moved (moved key)⟩
  | work hc t =>
    exact ⟨_, Accepts.refl.quiet (acceptedBy_put hc t.accepted)⟩
  | leave hc t =>
    refine ⟨_, Accepts.refl.quiet fun key => ?_⟩
    rw [World.acceptedBy, deregister_cells]
    exact acceptedBy_put hc t.accepted key
  | dismiss => exact ⟨_, Accepts.refl.quiet fun key => rfl⟩

theorem Accepts.trans {w₁ w₂ : World β} {log log' : List (CellKey × Event)} (h : Accepts w log w₁)
    (h' : Accepts w₁ log' w₂) : Accepts w (log ++ log') w₂ := by
  induction h' with
  | refl => rwa [List.append_nil]
  | quiet _ same ih => exact ih.quiet same
  | accept _ e leads ih =>
    rw [← List.append_assoc]
    exact ih.accept e leads

theorem accepts_steps (h : Steps w hand w' hand') : ∃ log, Accepts w log w' := by
  induction h with
  | refl => exact ⟨[], .refl⟩
  | tail _ s ih =>
    obtain ⟨log, before⟩ := ih
    obtain ⟨log', last⟩ := accepts_step s
    exact ⟨log ++ log', before.trans last⟩

end Quiet

/-! ### Delivery -/

/-- Between two turns a loop that is not over handled all that it accepted but for what waits in its
queue. -/
theorem accepted_eq_of_live {wall : Wall} {w : World β}
    (h : Steps (startingAt wall) atRest w atRest) {key : CellKey} {c : Cell β}
    (hc : w.cells.get? key = some c) (live : c.isOver = false) : c.accepted = c.handled ++ c.queue := by
  have books := (h.each Cell.Balanced.invariant).cells key c hc
  have kept := books.all_kept live
  rwa [show (atRest key).taken = [] from rfl, List.append_nil] at kept

/-- Every incarnation was handed a beginning of what it received in a log, and all of it once its
loop is over, unless a recovery failed or panicked. -/
def HandledInOrder (w : World β) (hand : CellKey → Hand) (log : List (CellKey × Event)) : Prop :=
  ∀ key c, w.cells.get? key = some c →
    c.handled ++ (hand key).taken <+: received log key ∧
      (c.isOver = true → c.Recovered → c.handled = received log key)

theorem handledInOrder_steps {wall : Wall} {w : World β} {hand : CellKey → Hand}
    (h : Steps (startingAt wall) atRest w hand) :
    ∃ log, Accepts (startingAt wall) log w ∧ w.HandledInOrder hand log := by
  have books := h.each Cell.Balanced.invariant
  obtain ⟨log, accepts⟩ := accepts_steps h
  refine ⟨log, accepts, ?_⟩
  intro key c hc
  have received_eq : received log key = c.accepted := by
    have all := accepts.acceptedBy key
    simpa [World.acceptedBy, hc, startingAt] using all.symm
  rw [received_eq]
  exact ⟨(books.cells key c hc).begins_accepted, (books.cells key c hc).handled_eq⟩

variable [Behavior β]

/-- **Events are handled in the order of their acceptance, each once.** After every run, and at every
moment between the steps and deeds that make it up, each incarnation was handed a beginning of what
was accepted into its own queue; a loop that is over was handed all of it, unless it ended in a
recovery that failed or panicked. -/
theorem handled_in_order (wall : Wall) :
    (∀ moves : List (Move β), ∃ log, Accepts (startingAt wall) log ((startingAt wall).run moves) ∧
      ((startingAt wall).run moves).HandledInOrder atRest log) ∧
    ∀ (w : World β) (hand : CellKey → Hand), Steps (startingAt wall) atRest w hand →
      ∃ log, Accepts (startingAt wall) log w ∧ w.HandledInOrder hand log :=
  ⟨fun moves => handledInOrder_steps (steps_run _ moves), fun _ _ h => handledInOrder_steps h⟩

/-- A cell that accepted two events and had one turn. -/
def halfway : World (Resident Actor) :=
  (startingAt ⟨0, 0⟩).run [
    .openMesh "mesh" (.ofMillis 1000),
    .start ⟨0⟩ ⟨"a"⟩ (.custom { rules := [] }),
    .emitNew ⟨0⟩ ⟨"a"⟩ "x" .empty,
    .emitNew ⟨0⟩ ⟨"a"⟩ "y" .empty,
    .turn (.cell ⟨0⟩)]

theorem handled_in_order_halfway : ∃ log, Accepts (startingAt ⟨0, 0⟩) log halfway ∧
    (received log ⟨0⟩).map (·.topic) = ["x", "y"] ∧
    ∃ c, halfway.cells.get? ⟨0⟩ = some c ∧ c.handled.map (·.topic) = ["x"] ∧
      c.handled <+: received log ⟨0⟩ := by
  have steps : Steps (startingAt ⟨0, 0⟩) atRest halfway atRest := steps_run _ _
  obtain ⟨log, accepts, in_order⟩ := (handled_in_order ⟨0, 0⟩).2 _ _ steps
  have known : ∃ c, halfway.cells.get? ⟨0⟩ = some c ∧ c.handled.map (·.topic) = ["x"] :=
    ⟨_, rfl, rfl⟩
  obtain ⟨c, hc, handled⟩ := known
  refine ⟨log, accepts, ?_, c, hc, handled, ?_⟩
  · have all : halfway.acceptedBy ⟨0⟩ = [] ++ received log ⟨0⟩ := accepts.acceptedBy ⟨0⟩
    rw [List.nil_append] at all
    rw [← all]
    rfl
  · simpa [Hand.taken] using (in_order ⟨0⟩ c hc).1

end World

end EventMesh
