import EventMesh.Proofs.Behavior.Tally
import EventMesh.Proofs.Mesh.Delivery
import EventMesh.Proofs.Mesh.Hush
import EventMesh.Proofs.Mesh.Request
import EventMesh.Proofs.Mesh.Settled
import EventMesh.Proofs.Mesh.Start

/-!
# Counts are exact

A counter is asked for its counts by an event with a waiter that nobody else knows. Until the counter
handles that event it handles just what it accepted before, so that its snapshot is the tally of what it
had accepted when it was asked; what it accepts later comes too late, and nobody else answers. Main
statements: in its turn a counter goes on counting and answers who asks (`handle_counter`), the question
waits in its queue until it is answered (`Pending.run`), the task that asked reports nothing but the answer
or the end of its wait (`Stirs.boundAt`), and `counts_are_exact` puts them together.
-/

namespace EventMesh

variable {γ : Type} [CustomBehavior γ] {v : WaiterId}

namespace Cell

/-- The incarnation has begun as a counter and holds the tally of what it handled. -/
structure Counts (keysOf : KeyFinder) (c : Cell (Resident γ)) : Prop where
  begun : c.phase ≠ .starting
  holds : ∃ k, c.resident = .counter k ∧ k.Holds keysOf c.id c.handled

omit [CustomBehavior γ] in
theorem Hears.handled {c c' : Cell (Resident γ)} (h : c.Hears v c') : c'.handled = c.handled := by
  rw [Cell.handled, h.calls, Cell.handled]

omit [CustomBehavior γ] in
theorem Hears.counts {c c' : Cell (Resident γ)} (h : c.Hears v c') {keysOf : KeyFinder}
    (counts : c.Counts keysOf) : c'.Counts keysOf := by
  refine ⟨h.begun counts.begun, ?_⟩
  rw [h.resident, h.id, h.handled]
  exact counts.holds

/-- The incarnation after it handled the oldest event of its queue. -/
structure Serves (c : Cell (Resident γ)) (k : Counter) (e : Event) (c' : Cell (Resident γ)) : Prop where
  id : c'.id = c.id
  phase : c'.phase = c.phase
  resident : c'.resident = .counter (k.heard e)
  queue : c'.queue = c.queue.tail
  handled : c'.handled = c.handled ++ [e]

omit [CustomBehavior γ] in
theorem Serves.counts {c c' : Cell (Resident γ)} {k : Counter} {e : Event} (h : c.Serves k e c')
    {keysOf : KeyFinder} (begun : c.phase ≠ .starting) (holds : k.Holds keysOf c.id c.handled) :
    c'.Counts keysOf := by
  refine ⟨h.phase ▸ begun, k.heard e, h.resident, ?_⟩
  rw [h.id, h.handled]
  exact holds.heard e

end Cell

namespace World

open Time

/-! ### The turn of a counter -/

/-- What a counter does about an event: it changes no cell, and it answers who asks with its snapshot. -/
theorem perform_counter (k : Counter) (e : Event) (w : World (Resident γ)) :
    ∃ outcome w₁, perform (Behavior.process (Resident.counter k : Resident γ) e) w =
        (.counter (k.heard e), outcome, w₁) ∧ w₁.cells = w.cells ∧
      ∀ v, e.Asks v → ∃ fresh,
        w₁.waiters = w.waiters.set v (Payload.new (.pairs (Counter.snapshot k.counts)) fresh) := by
  rcases k.process_cases e with ⟨outcome, silent, h⟩ | ⟨u, asks, h⟩
  · refine ⟨outcome, w, ?_, rfl, fun v asked => absurd asked (silent v)⟩
    show perform ((Counter.process k e).map .counter) w = _
    rw [h]
    rfl
  · let made := w.make (Serials.makePayload (.pairs (Counter.snapshot k.counts)))
    refine ⟨.done, (made.2.answer u made.1).2, ?_, (aside_answer made.2 u made.1).cells, fun v asked => ?_⟩
    · show perform ((Counter.process k e).map .counter) w = _
      rw [h]
      rfl
    · have same : u = v := Option.some.inj (asks.waiter.symm.trans asked.waiter)
      subst same
      exact ⟨w.serials.storage, (confined_wake _).apart.waiters⟩

/-- **A counter that handles an event goes on counting, and answers who asks.** A panic of its function
is recovered from. -/
theorem handle_counter {w : World (Resident γ)} {key : CellKey} {c : Cell (Resident γ)}
    (hc : w.cells.get? key = some c) (k : Counter) (e : Event) :
    (∃ c', (w.handle key (.counter k) e).cells.get? key = some c' ∧ c.Serves k e c') ∧
      ∀ v, e.Asks v → ∃ fresh, (w.handle key (.counter k) e).waiters =
        w.waiters.set v (Payload.new (.pairs (Counter.snapshot k.counts)) fresh) := by
  obtain ⟨outcome, w₁, performed, cells, answers⟩ :=
    perform_counter k e (w.modifyCell key fun c => { c with queue := c.queue.tail })
  set taken := { c with queue := c.queue.tail } with taken_def
  have here : w₁.cells.get? key = some taken := by
    rw [cells, get?_modifyCell, if_pos rfl, hc]
    rfl
  have called (call : Call) {w : World (Resident γ)} {c : Cell (Resident γ)}
      (hc : w.cells.get? key = some c) :
      (w.modifyCell key (·.after call (.counter (k.heard e)))).cells.get? key =
        some (c.after call (.counter (k.heard e))) := by
    rw [get?_modifyCell, if_pos rfl, hc]
    rfl
  have serves (outcome : Outcome) :
      c.Serves k e (taken.after (.process e outcome) (.counter (k.heard e))) :=
    ⟨rfl, rfl, rfl, rfl, Cell.handled_after_process ..⟩
  unfold handle
  simp only [performed]
  cases outcome with
  | done => exact ⟨⟨_, called _ here, serves _⟩, answers⟩
  | failed err => exact ⟨⟨_, called _ here, serves _⟩, answers⟩
  | panicked p =>
    refine ⟨⟨_, called (.recover (.panicked p.text) .done) (called _ here), ?_⟩, answers⟩
    have handled := (serves (.panicked p)).handled
    exact ⟨rfl, rfl, rfl, rfl, (Cell.handled_after_recover ..).trans handled⟩

/-- The turn of a counter: it has nothing to handle, or it handles the oldest event of its queue. -/
theorem stepCell_counter {w : World (Resident γ)} {key : CellKey} {c : Cell (Resident γ)}
    (hc : w.cells.get? key = some c) {k : Counter} (hk : c.resident = .counter k) :
    ∃ c', (w.stepCell key).cells.get? key = some c' ∧
      (c'.id = c.id ∧ (c.phase ≠ .starting → c'.phase ≠ .starting) ∧ c'.resident = c.resident ∧
          c'.queue = c.queue ∧ c'.handled = c.handled ∨
        ∃ e rest, c.queue = e :: rest ∧ c.Serves k e c') := by
  rcases stepCell_cases hc with h | ⟨hq, h⟩ | ⟨e, rest, -, hq, h⟩
  · rw [h]
    exact ⟨c, hc, Or.inl ⟨rfl, id, rfl, rfl, rfl⟩⟩
  · have ended : w.finish key (.counter k) = wake
        (((w.modifyCell key fun c => { c with phase := .ended, queue := [] }).deregister key).modifyCell
          key (·.after (.terminate .done) (.counter k))) := rfl
    rw [h, hk, ended]
    refine ⟨Cell.after { c with phase := .ended, queue := [] } (.terminate .done) (.counter k), ?_,
      Or.inl ⟨rfl, fun _ => nofun, rfl, hq.symm, Cell.handled_after_terminate ..⟩⟩
    rw [(aside_wake _).cells, get?_modifyCell, if_pos rfl, deregister_cells, get?_modifyCell,
      if_pos rfl, hc]
    rfl
  · rw [h, hk]
    obtain ⟨c', hc', serves⟩ := (handle_counter hc k e).1
    exact ⟨c', hc', Or.inr ⟨e, rest, hq, serves⟩⟩

/-! ### A counter goes on counting -/

/-- The incarnation counts and holds the tally of what it handled. -/
def CountsAt (w : World (Resident γ)) (key : CellKey) (keysOf : KeyFinder) : Prop :=
  ∃ c, w.cells.get? key = some c ∧ c.Counts keysOf

theorem CountsAt.act {w : World (Resident γ)} {m : Move (Resident γ)}
    (hushed : Hushed v (fun key => m = .turn (.cell key)) w (w.act m)) {key : CellKey}
    {keysOf : KeyFinder} (h : w.CountsAt key keysOf) : (w.act m).CountsAt key keysOf := by
  obtain ⟨c, hc, counts⟩ := h
  by_cases own : m = .turn (.cell key)
  · subst own
    obtain ⟨k, hk, holds⟩ := counts.holds
    obtain ⟨c', hc', same | ⟨e, rest, hq, serves⟩⟩ := stepCell_counter hc hk
    · obtain ⟨id, begun, resident, -, handled⟩ := same
      refine ⟨c', hc', begun counts.begun, ?_⟩
      rw [resident, id, handled]
      exact counts.holds
    · exact ⟨c', hc', serves.counts counts.begun holds⟩
  · obtain ⟨c', hc', hears⟩ := hushed.hears key c hc own counts.begun
    exact ⟨c', hc', hears.counts counts⟩

theorem size_waiters_le {β : Type} [Behavior β] (w : World β) (moves : List (Move β)) :
    w.waiters.size ≤ (w.run moves).waiters.size := by
  obtain ⟨log, stirs⟩ := stirs_run w moves
  exact stirs.grows.waiters

/-- As long as a waiter is not made, and no move mentions it, nobody knows it, and counters count on. -/
theorem quiet_run {w : World (Resident γ)} {moves : List (Move (Resident γ))}
    (quiet : Quiet v (fun _ => False) w) (omits : ∀ m ∈ moves, m.Omits v)
    (unmade : (w.run moves).waiters.size ≤ v.index) :
    Quiet v (fun _ => False) (w.run moves) ∧ ∀ key keysOf, w.CountsAt key keysOf →
      (w.run moves).CountsAt key keysOf := by
  induction moves generalizing w with
  | nil => exact ⟨quiet, fun _ _ h => h⟩
  | cons m moves ih =>
    have later : (w.act m).waiters.size ≤ v.index :=
      Nat.le_trans (size_waiters_le (w.act m) moves) unmade
    have hushed := hushed_act quiet (omits m (List.mem_cons_self ..)) (fun _ _ => id) fun next => by
      rw [← next] at later
      exact later
    obtain ⟨quiet', counting⟩ := ih (quiet.of_hushed hushed)
      (fun m hm => omits m (List.mem_cons_of_mem _ hm)) unmade
    exact ⟨quiet', fun key keysOf h => counting key keysOf (h.act hushed)⟩

/-! ### The question waits in the queue -/

end World

/-- The incarnation counts, and in its queue there is a question that nobody else knows the waiter of,
asked when it had accepted the given events. -/
structure Cell.Asked (v : WaiterId) (keysOf : KeyFinder) (id : CellId) (accepted : List Event)
    (c : Cell (Resident γ)) : Prop where
  id : c.id = id
  counts : c.Counts keysOf
  waiting : ∃ earlier e later, c.queue = earlier ++ e :: later ∧ c.handled ++ earlier = accepted ∧
    e.Asks v ∧ (∀ x ∈ earlier, x.Omits v) ∧ ∀ x ∈ later, x.Omits v

omit [CustomBehavior γ] in
theorem Cell.Asked.hears {keysOf : KeyFinder} {id : CellId} {accepted : List Event}
    {c c' : Cell (Resident γ)} (h : c.Asked v keysOf id accepted) (hears : c.Hears v c') :
    c'.Asked v keysOf id accepted := by
  obtain ⟨earlier, e, later, hq, hacc, asks, before, behind⟩ := h.waiting
  obtain ⟨more, hq', silent⟩ := hears.queue
  refine ⟨hears.id.trans h.id, hears.counts h.counts, earlier, e, later ++ more, ?_, ?_, asks, before,
    fun x hx => (List.mem_append.mp hx).elim (behind x) (silent x)⟩
  · rw [hq', hq, List.append_assoc, List.cons_append]
  · rw [hears.handled, hacc]

namespace World

open Time

/-- The question that only one incarnation knows of waits in its queue. -/
structure Pending (w : World (Resident γ)) (v : WaiterId) (key : CellKey) (keysOf : KeyFinder)
    (id : CellId) (accepted : List Event) : Prop where
  quiet : Quiet v (· = key) w
  known : v.index < w.waiters.size
  unanswered : w.waiters.reply? v = none
  asked : ∃ c, w.cells.get? key = some c ∧ c.Asked v keysOf id accepted

/-- The waiter has the snapshot of the tally of the keys. -/
def Answered (w : World (Resident γ)) (v : WaiterId) (keys : List String) : Prop :=
  ∃ fresh, w.waiters.reply? v =
    some (Payload.new (.pairs (Counter.snapshot (Counter.tally [] keys))) fresh)

section Pending

variable {w w' : World (Resident γ)} {key : CellKey} {keysOf : KeyFinder} {id : CellId}
  {accepted : List Event}

theorem Pending.hushed {busy : CellKey → Prop} (h : w.Pending v key keysOf id accepted)
    (hushed : Hushed v busy w w') (idle : ¬ busy key) (grows : w.waiters.size ≤ w'.waiters.size) :
    w'.Pending v key keysOf id accepted := by
  obtain ⟨c, hc, asked⟩ := h.asked
  obtain ⟨c', hc', hears⟩ := hushed.hears key c hc idle asked.counts.begun
  exact ⟨h.quiet.of_hushed hushed, Nat.lt_of_lt_of_le h.known grows,
    hushed.reply.trans h.unanswered, c', hc', asked.hears hears⟩

theorem Pending.beginWait (h : w.Pending v key keysOf id accepted) (t : TaskId) (errand : Errand)
    (slot : Slot) (ctx : Context) :
    (w.beginWait t errand slot ctx).Pending v key keysOf id accepted := by
  have waiting : Hushed v (fun _ => False) w (w.beginWait t errand slot ctx) :=
    polls_hushed.beginWait w t errand slot ctx
  exact h.hushed waiting not_false (by rw [waiters_beginWait])

/-- In the turn in which the question is the oldest event of the queue, the incarnation answers it. -/
theorem Pending.answer (h : w.Pending v key keysOf id accepted) {c : Cell (Resident γ)}
    (hc : w.cells.get? key = some c) (cid : c.id = id) (counts : c.Counts keysOf) {e : Event}
    {later : List Event} (hq : c.queue = e :: later) (asks : e.Asks v) :
    (w.stepCell key).Pending v key keysOf id accepted ∨
      (w.stepCell key).Answered v (Counter.counted keysOf id c.handled) := by
  rcases stepCell_cases hc with still | ⟨empty, -⟩ | ⟨e', rest, -, hq', handles⟩
  · have unchanged : Hushed v (fun _ => False) w (w.dismiss (.cell key)) := .of_eq rfl rfl rfl
    rw [still]
    exact Or.inl (h.hushed unchanged not_false (Nat.le_refl _))
  · rw [hq] at empty
    cases empty
  · rw [hq] at hq'
    cases hq'
    obtain ⟨k, hk, holds⟩ := counts.holds
    obtain ⟨fresh, answered⟩ := (handle_counter hc k e).2 v asks
    have there : (w.waiters.get? v).isSome := by
      simpa [Table.get?, Table.size] using h.known
    refine Or.inr ⟨fresh, ?_⟩
    rw [handles, hk, answered, Table.reply?_set, if_pos ⟨rfl, there⟩, h.unanswered, holds.counts, cid]
    rfl

/-- In any turn before, it handles an event that it accepted earlier, and the question comes closer. -/
theorem Pending.serve (h : w.Pending v key keysOf id accepted) {c : Cell (Resident γ)}
    (hc : w.cells.get? key = some c) (asked : c.Asked v keysOf id accepted) {x e : Event}
    {earlier later : List Event} (hq : c.queue = x :: earlier ++ e :: later)
    (hacc : c.handled ++ x :: earlier = accepted) (asks : e.Asks v)
    (before : ∀ y ∈ x :: earlier, y.Omits v) (behind : ∀ y ∈ later, y.Omits v) :
    (w.stepCell key).Pending v key keysOf id accepted := by
  obtain ⟨k, hk, holds⟩ := asked.counts.holds
  have head : ∀ c' e', w.cells.get? key = some c' → c'.queue.head? = some e' → e'.Omits v := by
    intro c' e' hc' he'
    cases hc.symm.trans hc'
    rw [hq] at he'
    cases he'
    exact before x (List.mem_cons_self ..)
  have resident : ∀ c', w.cells.get? key = some c' → Discreet v c'.resident := by
    intro c' hc'
    cases hc.symm.trans hc'
    rw [hk]
    exact discreet_counter v k
  have hushed : Hushed v (· = key) w (w.stepCell key) := hushed_stepCell w rfl resident head
  have grows := size_waiters_le w [.turn (.cell key)]
  obtain ⟨c', hc', turned⟩ := stepCell_counter hc hk
  refine ⟨h.quiet.of_hushed hushed, Nat.lt_of_lt_of_le h.known grows,
    hushed.reply.trans h.unanswered, c', hc', ?_⟩
  rcases turned with ⟨sameId, begun, resident, queue, handled⟩ | ⟨y, rest, hy, serves⟩
  · refine ⟨sameId.trans asked.id, ⟨begun asked.counts.begun, ?_⟩, ?_⟩
    · rw [resident, sameId, handled]
      exact asked.counts.holds
    · rw [queue, handled]
      exact asked.waiting
  · rw [hq] at hy
    cases hy
    refine ⟨serves.id.trans asked.id, serves.counts asked.counts.begun holds, earlier, e, later,
      ?_, ?_, asks, fun y hy => before y (List.mem_cons_of_mem _ hy), behind⟩
    · rw [serves.queue, hq]
      rfl
    · rw [serves.handled, ← hacc, List.append_assoc]
      rfl

/-- In its turn the incarnation handles what it accepted before, or it answers. -/
theorem Pending.turn (h : w.Pending v key keysOf id accepted) :
    (w.stepCell key).Pending v key keysOf id accepted ∨
      (w.stepCell key).Answered v (Counter.counted keysOf id accepted) := by
  obtain ⟨c, hc, asked⟩ := h.asked
  obtain ⟨earlier, e, later, hq, hacc, asks, before, behind⟩ := asked.waiting
  cases earlier with
  | nil =>
    have settled : c.handled = accepted := (List.append_nil _).symm.trans hacc
    have turned := h.answer hc asked.id asked.counts hq asks
    rwa [settled] at turned
  | cons x earlier => exact Or.inl (h.serve hc asked hq hacc asks before behind)

theorem Pending.act (h : w.Pending v key keysOf id accepted) {m : Move (Resident γ)}
    (omits : m.Omits v) : (w.act m).Pending v key keysOf id accepted ∨
      (w.act m).Answered v (Counter.counted keysOf id accepted) := by
  by_cases own : m = .turn (.cell key)
  · subst own
    exact h.turn
  · have made : w.waiters.next ≠ v := by
      rintro rfl
      exact Nat.lt_irrefl _ h.known
    have hushed := hushed_act h.quiet omits (fun j hj => by
      rintro rfl
      exact own hj) fun next => absurd next made
    exact Or.inl (h.hushed hushed own (size_waiters_le w [m]))

theorem Answered.run {w : World (Resident γ)} {keys : List String} (h : w.Answered v keys)
    (moves : List (Move (Resident γ))) : (w.run moves).Answered v keys := by
  obtain ⟨fresh, answered⟩ := h
  obtain ⟨log, stirs⟩ := stirs_run w moves
  exact ⟨fresh, stirs.reply?_kept answered⟩

/-- **The question waits until it is answered**, with the tally of what was accepted before it. -/
theorem Pending.run (h : w.Pending v key keysOf id accepted) {moves : List (Move (Resident γ))}
    (omits : ∀ m ∈ moves, m.Omits v) : (w.run moves).Pending v key keysOf id accepted ∨
      (w.run moves).Answered v (Counter.counted keysOf id accepted) := by
  induction moves generalizing w with
  | nil => exact Or.inl h
  | cons m moves ih =>
    rcases h.act (omits m (List.mem_cons_self ..)) with pending | answered
    · exact ih pending fun m hm => omits m (List.mem_cons_of_mem _ hm)
    · exact Or.inr (answered.run moves)

end Pending

/-! ### The task that asked -/

/-- How far a task that asks for counts may have come once it waits for the waiter: it brings back the
counts of the reply or the end of its wait. -/
inductive Bound (w : World β) (v : WaiterId) : Progress → Prop
  | waiting (ctx : Context) : Bound w v (.waiting (.waiter v) ctx)
  | answered {p : Payload} (h : w.waiters.reply? v = some p) :
      Bound w v (.finished (.counts (Errand.countsOf p)))
  | failed (e : EventError) : Bound w v (.finished (.counts (.error (.request e))))
  | aborted : Bound w v .aborted

/-- The task asks for counts and is bound to the waiter. -/
def BoundAt (w : World β) (t : TaskId) (v : WaiterId) : Prop :=
  ∃ task mesh target ctx timeout, w.tasks.get? t = some task ∧
    task.errand = .tally mesh target ctx timeout ∧ Bound w v task.progress

section BoundAt

variable {β : Type} {w w' : World β} {t : TaskId} {task : Task} {progress : Progress}

theorem Bound.of_kept (h : w.Bound v progress)
    (kept : ∀ p, w.waiters.reply? v = some p → w'.waiters.reply? v = some p) :
    w'.Bound v progress := by
  cases h with
  | waiting ctx => exact .waiting ctx
  | answered h => exact .answered (kept _ h)
  | failed e => exact .failed e
  | aborted => exact .aborted

/-- What the end of the wait comes to. -/
theorem bound_reportWait {mesh : MeshId} {target : CellId} {ctx : Context} {timeout : Duration}
    (errand : task.errand = .tally mesh target ctx timeout) {r : Except EventError Payload}
    (h : ∀ p, r = .ok p → w.waiters.reply? v = some p) :
    w.Bound v (.finished (task.errand.reportWait r)) := by
  rw [errand]
  cases r with
  | ok p => exact .answered (h p rfl)
  | error e => exact .failed e

theorem Bound.poll (h : w.Bound v task.progress) (at_ : w.tasks.get? t = some task)
    {mesh : MeshId} {target : CellId} {ctx : Context} {timeout : Duration}
    (errand : task.errand = .tally mesh target ctx timeout)
    (polled : (w.stepTask t).progress? t = some progress) : w.Bound v progress := by
  have rests (ended : task.isOver = true) : progress = task.progress := by
    rw [stepTask_over at_ ended] at polled
    exact Option.some.inj (polled.symm.trans (progress?_of_get? at_))
  generalize hp : task.progress = before at h
  cases h with
  | waiting ctx =>
    cases hd : task.doomed with
    | true =>
      rw [progress?_stepTask_doomed at_ (by rw [Task.isOver, hp]) hd] at polled
      cases polled
      exact .aborted
    | false =>
      rw [progress?_stepTask_waiting at_ hd hp] at polled
      cases polled
      cases hr : w.waitResult? (.waiter v) ctx with
      | none => exact .waiting ctx
      | some r =>
        refine bound_reportWait errand fun p ok => ?_
        subst ok
        exact waitResult?_eq_ok hr
  | answered reply =>
    rw [rests (by rw [Task.isOver, hp]), hp]
    exact .answered reply
  | failed e =>
    rw [rests (by rw [Task.isOver, hp]), hp]
    exact .failed e
  | aborted =>
    rw [rests (by rw [Task.isOver, hp]), hp]
    exact .aborted

theorem Stir.boundAt {marks : List Mark} (h : Stir w marks w') (bound : w.BoundAt t v) :
    w'.BoundAt t v := by
  obtain ⟨task, mesh, target, ctx, timeout, at_, errand, bound⟩ := bound
  obtain ⟨task', at', same⟩ := h.grows.tasks t task at_
  refine ⟨task', mesh, target, ctx, timeout, at', same.trans errand, ?_⟩
  refine Bound.of_kept (w := w) ?_ fun p hp => h.reply?_kept hp
  rcases h.task at' with ⟨task₀, at₀, -, came⟩ | ⟨new, -⟩ | polled
  · rw [at_] at at₀
    cases at₀
    rwa [came]
  · exact absurd new (Table.ne_next_of_get? at_)
  · subst polled
    exact bound.poll at_ errand (progress?_of_get? at')

theorem Stirs.boundAt {log : List Mark} (h : Stirs w log w') (bound : w.BoundAt t v) :
    w'.BoundAt t v := by
  induction h with
  | refl => exact bound
  | tail _ s ih => exact s.boundAt ih

/-- A task that was given up brings nothing back. -/
theorem Stirs.aborted {log : List Mark} (h : Stirs w log w')
    (aborted : w.progress? t = some .aborted) : w'.progress? t = some .aborted := by
  obtain ⟨task, at_, hp⟩ := Option.map_eq_some_iff.mp aborted
  obtain ⟨task', at', same⟩ := h.progress?_kept at_ (by rw [Task.isOver, hp])
  rw [progress?_of_get? at', same, hp]

end BoundAt

/-! ### The question is asked -/

theorem asks_requestEvent {β : Type} (w : World β) (values : Source) :
    (w.requestEvent Topic.counterResults values).1.Asks w.waiters.next := by
  refine ⟨rfl, ?_⟩
  rw [Payload.getWaiter?, (requests_requestEvent w Topic.counterResults values).waiter]

/-- What a task that asks for counts asks for. -/
theorem asks_tally {task : Task} {mesh : MeshId} {target : CellId} {ctx : Context} {timeout : Duration}
    (errand : task.errand = .tally mesh target ctx timeout) (now : Instant) :
    task.errand.ask? now =
      some ⟨mesh, target, Topic.counterResults, .empty, ctx.withTimeout now timeout⟩ := by
  rw [errand]
  rfl

/-- The first turn of a task that asks for counts, under a name that leads to an incarnation. -/
theorem stepTask_tally {β : Type} {w : World β} {t : TaskId} {task : Task} {mesh : MeshId}
    {target : CellId} {ctx : Context} {timeout : Duration} {key : CellKey}
    (at_ : w.tasks.get? t = some task) (errand : task.errand = .tally mesh target ctx timeout)
    (fresh : task.progress = .fresh) (kept : task.doomed = false)
    (leads : w.route mesh target = .ok key) :
    w.stepTask t = (((w.dismiss (.task t)).withRequest Topic.counterResults .empty).accept key
      ((w.dismiss (.task t)).requestEvent Topic.counterResults .empty).1).beginWait t task.errand
        (.waiter w.waiters.next) (ctx.withTimeout w.now timeout) := by
  rcases stepTask_ask at_ (asks_tally errand w.now) fresh kept with ⟨err, unsent, -⟩ | ⟨k, sent, began⟩
  · cases unsent.symm.trans leads
  · cases sent.symm.trans leads
    exact began

/-- A counter that nobody else told of the waiter accepts the question. -/
theorem pending_ask {w : World (Resident γ)} {key : CellKey} {c : Cell (Resident γ)}
    {keysOf : KeyFinder} (hc : w.cells.get? key = some c) (counts : c.Counts keysOf)
    (settled : c.accepted = c.handled ++ c.queue)
    (quiet : Quiet w.waiters.next (fun _ => False) w) :
    ((w.withRequest Topic.counterResults .empty).accept key
      (w.requestEvent Topic.counterResults .empty).1).Pending w.waiters.next key keysOf c.id
        c.accepted := by
  set e := (w.requestEvent Topic.counterResults .empty).1
  have sent := (confined_accept (w.withRequest Topic.counterResults .empty) key e).apart
  refine ⟨⟨fun j d hd other => ?_, fun t task at_ => ?_⟩, ?_, ?_, c.accept e, ?_, rfl,
    ⟨counts.begun, counts.holds⟩, c.queue, e, [], rfl, settled.symm, asks_requestEvent w .empty,
    (quiet.cells key c hc id).queue, nofun⟩
  · rw [get?_accept, if_neg (Ne.symm other)] at hd
    exact quiet.cells j d hd id
  · rw [sent.tasks] at at_
    exact quiet.errands t task at_
  · rw [sent.waiters]
    show w.waiters.size < (w.waiters.add {}).size
    rw [Table.size_add]
    exact Nat.lt_succ_self _
  · rw [sent.waiters]
    show (w.waiters.add {}).reply? w.waiters.next = none
    rw [Table.reply?_add, Table.reply?, Table.get?_next]
    rfl
  · rw [get?_accept, if_pos rfl]
    exact congrArg (Option.map (·.accept e)) hc

/-- The task that asked is bound to its waiter once it had its first turn. -/
theorem boundAt_ask {β : Type} {w : World β} {t : TaskId} {task : Task} {mesh : MeshId}
    {target : CellId} {ctx : Context} {timeout : Duration} {key : CellKey}
    (at_ : w.tasks.get? t = some task) (errand : task.errand = .tally mesh target ctx timeout)
    (fresh : task.progress = .fresh) (kept : task.doomed = false)
    (leads : w.route mesh target = .ok key) : (w.stepTask t).BoundAt t w.waiters.next := by
  obtain ⟨task', at', same⟩ := (grows_pieces (pieces_stepTask w t)).tasks t task at_
  refine ⟨task', mesh, target, ctx, timeout, at', same.trans errand, ?_⟩
  have polled := progress?_of_get? at'
  rw [progress?_stepTask_ask at_ (asks_tally errand w.now) fresh kept, leads] at polled
  cases ended : w.err? (ctx.withTimeout w.now timeout) with
  | none =>
    rw [ended] at polled
    exact Option.some.inj polled ▸ .waiting _
  | some e =>
    rw [ended, errand] at polled
    exact Option.some.inj polled ▸ .failed e

/-! ### Counts -/

/-- The incarnation has just begun as a counter: it has its outlet and handled nothing yet. -/
def BeginsCounting (w : World (Resident γ)) (key : CellKey) (keysOf : KeyFinder) : Prop :=
  ∃ c outlet, w.cells.get? key = some c ∧ c.phase ≠ .starting ∧ c.handled = [] ∧
    c.resident = .counter { keysOf, outlet := some outlet } ∧ outlet.id = c.id

/-- A counter begins so in every start that succeeds. -/
theorem beginsCounting_start {w : World (Resident γ)} {mesh : MeshId} {id : CellId}
    {keysOf : KeyFinder} (ok : (w.start mesh id (.counter { keysOf })).1 = .ok ()) :
    (w.start mesh id (.counter { keysOf })).2.BeginsCounting w.cells.next keysOf := by
  obtain ⟨c, hc, -, -, running, calls, resident⟩ := get?_start
    (fun outlet => .counter { keysOf, outlet := some outlet }) (fun _ => rfl) ok
  refine ⟨c, _, hc, by rw [running]; nofun, ?_, resident, rfl⟩
  rw [Cell.handled, calls]
  rfl

/-- An incarnation that an event can be sent to has the name it is sent to, and handled all that it
accepted but for what waits in its queue. -/
theorem settled_of_route {β : Type} {wall : Wall} {w : World β}
    (steps : Steps (startingAt wall) atRest w atRest) {mesh : MeshId} {target : CellId}
    {key : CellKey} (leads : w.route mesh target = .ok key) {c : Cell β}
    (hc : w.cells.get? key = some c) : c.id = target ∧ c.accepted = c.handled ++ c.queue := by
  obtain ⟨m, c', hm, -, registered, hc', running⟩ := route_ok leads
  rw [hc] at hc'
  cases hc'
  constructor
  · obtain ⟨d, hd, -, id, -⟩ := (orderly_steps steps).found mesh target key
      ((lookUp_eq hm target).trans registered)
    rw [hc] at hd
    cases hd
    exact id
  · exact accepted_eq_of_live steps hc (Cell.Balanced.isOver_eq_false running (by decide))

/-- What a task brings back that is bound to a waiter which has the exact tally, if it is answered. -/
theorem BoundAt.exact {w : World (Resident γ)} {t : TaskId} (bound : w.BoundAt t v)
    {r : Except MeshError (Dict String Int64)} (reported : w.report? t = some (.counts r))
    {key : CellKey} {keysOf : KeyFinder} {id : CellId} {accepted : List Event}
    (outcome : w.Pending v key keysOf id accepted ∨
      w.Answered v (Counter.counted keysOf id accepted))
    (few : (Counter.counted keysOf id accepted).length < 2 ^ 63) :
    (∀ text, r ≠ .error (.invalidResponse text)) ∧ ∀ m, r = .ok m → ∀ k,
      (Dict.get? m k).map Int64.toInt =
        if (Counter.counted keysOf id accepted).count k = 0 then none
        else some ↑((Counter.counted keysOf id accepted).count k) := by
  obtain ⟨task, mesh, target, ctx, timeout, at_, -, bound⟩ := bound
  rw [report?, progress?_of_get? at_] at reported
  generalize task.progress = progress at bound reported
  cases bound with
  | waiting ctx => cases reported
  | aborted => cases reported
  | failed e =>
    cases reported
    constructor
    · intro text invalid
      cases invalid
    · intro m brought
      cases brought
  | answered reply =>
    cases reported
    rcases outcome with pending | ⟨fresh, answered⟩
    · rw [pending.unanswered] at reply
      cases reply
    · rw [answered] at reply
      cases reply
      rw [Counter.countsOf_snapshot]
      constructor
      · intro text invalid
        cases invalid
      · rintro m ⟨⟩ k
        exact Counter.toInt_get?_tally few k

omit [CustomBehavior γ] in
theorem BeginsCounting.countsAt {w : World (Resident γ)} {key : CellKey} {keysOf : KeyFinder}
    (h : w.BeginsCounting key keysOf) : w.CountsAt key keysOf := by
  obtain ⟨c, outlet, hc, begun, handled, resident, named⟩ := h
  refine ⟨c, hc, begun, _, resident, rfl, congrArg some named, ?_⟩
  rw [handled]
  rfl

/-- **The counts that a counter is asked for are exact.** A counter has begun at some point of a run.
Later a task that asks for its counts has its first turn, and the name leads to this counter; nobody
mentions the waiter that is made in this turn but the counter that answers it. Whatever happens
afterwards, the task never reports that the answer was invalid, and if it reports counts then each key
has the multiplicity with which it is found in the events that the counter accepted up to the question
and after the last reset, control events left out, and no other key has counts. -/
theorem counts_are_exact (wall : Wall) {born between after : List (Move (Resident γ))}
    {w₀ w₁ w₂ : World (Resident γ)} (h₀ : (startingAt wall).run born = w₀)
    (h₁ : w₀.run between = w₁) {t : TaskId} (h₂ : (w₁.act (.turn (.task t))).run after = w₂)
    {key : CellKey} {keysOf : KeyFinder} (started : w₀.BeginsCounting key keysOf)
    {task : Task} {mesh : MeshId} {target : CellId} {ctx : Context} {timeout : Duration}
    (at_ : w₁.tasks.get? t = some task) (errand : task.errand = .tally mesh target ctx timeout)
    (fresh : task.progress = .fresh) (leads : w₁.route mesh target = .ok key)
    (secret : ∀ m ∈ born ++ between ++ after, m.Omits w₁.waiters.next)
    (few : (Counter.counted keysOf target (w₁.acceptedBy key)).length < 2 ^ 63)
    {r : Except MeshError (Dict String Int64)} (reported : w₂.report? t = some (.counts r)) :
    (∀ text, r ≠ .error (.invalidResponse text)) ∧ ∀ m, r = .ok m → ∀ k,
      (Dict.get? m k).map Int64.toInt =
        if (Counter.counted keysOf target (w₁.acceptedBy key)).count k = 0 then none
        else some ↑((Counter.counted keysOf target (w₁.acceptedBy key)).count k) := by
  have omits {part : List (Move (Resident γ))} (h : ∀ m ∈ part, m ∈ born ++ between ++ after) :
      ∀ m ∈ part, m.Omits w₁.waiters.next := fun m hm => secret m (h m hm)
  -- Up to the question nobody knows the waiter, since it is not made yet.
  have quiet₀ : Quiet w₁.waiters.next (fun _ => False) w₀ := by
    have earlier := size_waiters_le w₀ between
    rw [h₁, ← h₀] at earlier
    rw [← h₀]
    exact (quiet_run (quiet_startingAt wall) (omits fun m hm => by simp [hm]) earlier).1
  obtain ⟨quiet, counting⟩ : Quiet w₁.waiters.next (fun _ => False) w₁ ∧ w₁.CountsAt key keysOf := by
    have silent : ∀ m ∈ between, m.Omits w₁.waiters.next := omits fun m hm => by simp [hm]
    have later := quiet_run quiet₀ silent (by rw [h₁]; exact Nat.le_refl _)
    rw [h₁] at later
    exact ⟨later.1, later.2 key keysOf started.countsAt⟩
  obtain ⟨c, hc, counts⟩ := counting
  have steps : Steps (startingAt wall) atRest w₁ atRest := by
    rw [← h₁, ← h₀]
    exact (steps_run _ born).trans (steps_run _ between)
  obtain ⟨id, settled⟩ := settled_of_route steps leads hc
  have accepted : w₁.acceptedBy key = c.accepted := by simp [acceptedBy, hc]
  obtain ⟨log, stirs⟩ := stirs_run (w₁.stepTask t) after
  rw [show (w₁.stepTask t).run after = w₂ from h₂] at stirs
  cases doomed : task.doomed with
  | true =>
    have live : task.isOver = false := by rw [Task.isOver, fresh]
    have given_up := stirs.aborted (progress?_stepTask_doomed at_ live doomed)
    rw [report?, given_up] at reported
    cases reported
  | false =>
    have pending : (w₁.stepTask t).Pending w₁.waiters.next key keysOf c.id c.accepted := by
      have asked := pending_ask (w := w₁.dismiss (.task t)) hc counts settled
        ⟨quiet.cells, quiet.errands⟩
      rw [stepTask_tally at_ errand fresh doomed leads]
      exact asked.beginWait t _ _ _
    have bound := stirs.boundAt (boundAt_ask at_ errand fresh doomed leads)
    have outcome := pending.run (omits (List.subset_append_right _ _))
    rw [show (w₁.stepTask t).run after = w₂ from h₂, id, ← accepted] at outcome
    exact bound.exact reported outcome few

/-- A cell that counts topics begins. -/
def topicCounter : List (Move (Resident Actor)) := [
  .openMesh "mesh" (.ofMillis 1000),
  .start ⟨0⟩ ⟨"counter"⟩ (.counter { keysOf := .topic })]

/-- A hit with a number and a scene. -/
def tick : Event where
  id := .ofSerial 100
  topic := "tick"
  payload := .mk 100 [(Key.default, .int 7)]
  scene := some ⟨0⟩
  createdAt := ⟨0, 0⟩

/-- A task is to ask for its counts. Meanwhile it accepts events, among them a reset, and handles the
first; a detector of pairs reports two hits to it and to a keeper of scenes. -/
def inquiry : List (Move (Resident Actor)) := [
  .spawn (.tally ⟨0⟩ ⟨"counter"⟩ .background (.ofMillis 1000)),
  .newScene,
  .start ⟨0⟩ ⟨"pair"⟩ (.pair { criterion := .onTopic "tick", window := .ofMillis 100 }),
  .start ⟨0⟩ ⟨"scenes"⟩ (.sceneKeeper {}),
  .subscribe ⟨0⟩ ⟨"pair"⟩ [⟨"counter"⟩, ⟨"scenes"⟩],
  .emitNew ⟨0⟩ ⟨"counter"⟩ "x" .empty,
  .emitNew ⟨0⟩ ⟨"counter"⟩ Topic.reset .empty,
  .emitNew ⟨0⟩ ⟨"counter"⟩ "x" .empty,
  .emitNew ⟨0⟩ ⟨"counter"⟩ "y" .empty,
  .emitNew ⟨0⟩ ⟨"counter"⟩ "x" .empty,
  .turn (.cell ⟨0⟩),
  .emit ⟨0⟩ ⟨"pair"⟩ tick, .emit ⟨0⟩ ⟨"pair"⟩ tick,
  .turn (.cell ⟨1⟩), .turn (.cell ⟨1⟩), .turn (.cell ⟨2⟩)]

/-- Once it was asked the cell accepts one more event, handles all and answers. -/
def answering : List (Move (Resident Actor)) :=
  .emitNew ⟨0⟩ ⟨"counter"⟩ "x" .empty :: List.replicate 7 (.turn (.cell ⟨0⟩)) ++ [.turn (.task ⟨0⟩)]

def inquired : World (Resident Actor) := ((startingAt ⟨0, 0⟩).run topicCounter).run inquiry

def replied : World (Resident Actor) := (inquired.act (.turn (.task ⟨0⟩))).run answering

set_option maxRecDepth 4000 in
theorem counts_are_exact_replied : ∃ r, replied.report? ⟨0⟩ = some (.counts r) ∧
    (∀ text, r ≠ .error (.invalidResponse text)) ∧ ∃ m, r = .ok m ∧
      (Dict.get? m "x").map Int64.toInt = some 2 ∧ (Dict.get? m "y").map Int64.toInt = some 1 ∧
      (Dict.get? m Topic.pair).map Int64.toInt = some 1 ∧
      (Dict.get? m Topic.reset).map Int64.toInt = none := by
  have reported : replied.report? ⟨0⟩ =
      some (.counts (.ok [(Topic.pair, 1), ("x", 2), ("y", 1)])) := rfl
  have begun : ((startingAt ⟨0, 0⟩).run topicCounter).BeginsCounting ⟨0⟩ .topic :=
    beginsCounting_start (w := (startingAt ⟨0, 0⟩).act (.openMesh "mesh" (.ofMillis 1000))) rfl
  have detector : Discreet inquired.waiters.next
      (Resident.pair { criterion := .onTopic "tick", window := .ofMillis 100 } : Resident Actor) :=
    discreet_pair ⟨Criterion.discreet_onTopic _ _, nofun⟩
  have hits : tick.Omits inquired.waiters.next := ⟨trivial, trivial⟩
  have secret : ∀ m ∈ topicCounter ++ inquiry ++ answering, m.Omits inquired.waiters.next := by
    simp [topicCounter, inquiry, answering, Move.Omits, Errand.Omits, Source.Omits, Source.entries,
      discreet_counter, discreet_sceneKeeper, detector, hits]
  have counted : Counter.counted .topic ⟨"counter"⟩ (inquired.acceptedBy ⟨0⟩) =
      ["x", "y", "x", Topic.pair] := rfl
  have asked : ((startingAt ⟨0, 0⟩).run topicCounter).run inquiry = inquired := rfl
  obtain ⟨valid, multiplicity⟩ := counts_are_exact ⟨0, 0⟩ rfl asked rfl begun rfl rfl rfl rfl secret
    (by rw [counted]; decide) reported
  rw [counted] at multiplicity
  exact ⟨_, reported, valid, _, rfl, multiplicity _ rfl "x", multiplicity _ rfl "y",
    multiplicity _ rfl Topic.pair, multiplicity _ rfl Topic.reset⟩

end World

end EventMesh
