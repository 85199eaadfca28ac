import EventMesh.Proofs.Mesh.Discretion

/-!
# Nobody tells of a waiter

A waiter that no behavior, queue or task mentions stays unmentioned, whatever anybody does who does not
know it. `Hushed v busy w w'` says that between `w` and `w'` nobody mentioned the waiter `v`:
incarnations heard of further events that omit it, whoever is new does not know it, and nobody answered
it; only the loops of the busy incarnations made calls. Main statements: performing a discreet script is
hushed (`hushed_perform`), and so is every move that does not mention the waiter, in a world that is
quiet about it (`hushed_act`), which therefore stays quiet (`Quiet.of_hushed`).
-/

namespace EventMesh

variable {v : WaiterId}

/-- A task with the errand sends no event that mentions the waiter; it may well wait for it. -/
def Errand.Omits (v : WaiterId) : Errand → Prop
  | .request _ _ _ values _ => values.Omits v
  | .remind _ _ _ e => e.Omits v
  | .wait .. | .waitFlag .. | .tally .. | .watch _ | .sleep _ | .shutdown _ => True

namespace Cell

variable {β : Type}

/-- What remains of an incarnation while its loop makes no call and nobody mentions the waiter: it
accepts further events. -/
structure Hears (v : WaiterId) (c c' : Cell β) : Prop where
  id : c'.id = c.id
  resident : c'.resident = c.resident
  calls : c'.calls = c.calls
  begun : c.phase ≠ .starting → c'.phase ≠ .starting
  queue : ∃ more, c'.queue = c.queue ++ more ∧ ∀ e ∈ more, e.Omits v

namespace Hears

theorem refl (c : Cell β) : c.Hears v c := ⟨rfl, rfl, rfl, fun h => h, [], by simp, by simp⟩

theorem trans {c c₁ c₂ : Cell β} (h : c.Hears v c₁) (h' : c₁.Hears v c₂) : c.Hears v c₂ := by
  obtain ⟨more, hq, silent⟩ := h.queue
  obtain ⟨more', hq', silent'⟩ := h'.queue
  refine ⟨h'.id.trans h.id, h'.resident.trans h.resident, h'.calls.trans h.calls,
    fun begun => h'.begun (h.begun begun), more ++ more', ?_, ?_⟩
  · rw [hq', hq, List.append_assoc]
  · intro e he
    exact (List.mem_append.mp he).elim (silent e) (silent' e)

theorem accept (c : Cell β) {e : Event} (he : e.Omits v) : c.Hears v (c.accept e) := by
  refine ⟨rfl, rfl, rfl, fun h => h, [e], rfl, fun e' he' => ?_⟩
  rwa [List.mem_singleton.mp he']

theorem close (c : Cell β) : c.Hears v c.close := by
  unfold Cell.close
  split
  · exact ⟨rfl, rfl, rfl, fun _ => nofun, [], by simp, by simp⟩
  · exact .refl c

end Hears

variable [Behavior β]

/-- Neither the behavior nor the queue of the incarnation mentions the waiter. -/
structure Sealed (v : WaiterId) (c : Cell β) : Prop where
  resident : Discreet v c.resident
  queue : ∀ e ∈ c.queue, e.Omits v

theorem Hears.sealed {c c' : Cell β} (h : c.Hears v c') (sealed : c.Sealed v) : c'.Sealed v := by
  obtain ⟨more, hq, silent⟩ := h.queue
  refine ⟨h.resident ▸ sealed.resident, fun e he => ?_⟩
  rw [hq] at he
  exact (List.mem_append.mp he).elim (sealed.queue e) (silent e)

end Cell

namespace World

open Time

variable {β : Type} [Behavior β] {busy told : CellKey → Prop} {w w₁ w₂ : World β}

/-- Between the two worlds nobody mentioned the waiter, and only busy incarnations made calls. -/
structure Hushed (v : WaiterId) (busy : CellKey → Prop) (w w' : World β) : Prop where
  hears : ∀ j c, w.cells.get? j = some c → ¬ busy j → c.phase ≠ .starting →
    ∃ c', w'.cells.get? j = some c' ∧ c.Hears v c'
  sealed : ∀ j c', w'.cells.get? j = some c' →
    (∀ c, w.cells.get? j = some c → c.Sealed v) → c'.Sealed v
  errands : ∀ t task', w'.tasks.get? t = some task' →
    (∃ task, w.tasks.get? t = some task ∧ task'.errand = task.errand) ∨ task'.errand.Omits v
  reply : w'.waiters.reply? v = w.waiters.reply? v

namespace Hushed

theorem trans (h : Hushed v busy w w₁) (h' : Hushed v busy w₁ w₂) : Hushed v busy w w₂ where
  hears j c hc idle begun := by
    obtain ⟨c₁, hc₁, told⟩ := h.hears j c hc idle begun
    obtain ⟨c₂, hc₂, told'⟩ := h'.hears j c₁ hc₁ idle (told.begun begun)
    exact ⟨c₂, hc₂, told.trans told'⟩
  sealed j c₂ hc₂ before :=
    h'.sealed j c₂ hc₂ fun c₁ hc₁ => h.sealed j c₁ hc₁ before
  errands t task₂ at₂ := by
    rcases h'.errands t task₂ at₂ with ⟨task₁, at₁, same⟩ | omits
    · rw [same]
      exact h.errands t task₁ at₁
    · exact Or.inr omits
  reply := h'.reply.trans h.reply

/-- A change of no cell. -/
theorem of_tasks (cells : w₁.cells = w.cells)
    (errands : ∀ t task', w₁.tasks.get? t = some task' →
      (∃ task, w.tasks.get? t = some task ∧ task'.errand = task.errand) ∨ task'.errand.Omits v)
    (reply : w₁.waiters.reply? v = w.waiters.reply? v) : Hushed v busy w w₁ where
  hears _ c hc _ _ := ⟨c, cells ▸ hc, .refl c⟩
  sealed _ _ hc before := before _ (cells ▸ hc)
  errands := errands
  reply := reply

/-- A change of no cell and no task. -/
theorem of_eq (cells : w₁.cells = w.cells) (tasks : w₁.tasks = w.tasks)
    (reply : w₁.waiters.reply? v = w.waiters.reply? v) : Hushed v busy w w₁ :=
  of_tasks cells (fun _ task' at' => Or.inl ⟨task', tasks ▸ at', rfl⟩) reply

theorem refl (w : World β) : Hushed v busy w w := of_eq rfl rfl rfl

/-- A change beside the mesh of nothing that anyone waits for. -/
theorem of_apart (cells : Aside w w₁) (waits : Apart w w₁) : Hushed v busy w w₁ :=
  of_eq cells.cells waits.tasks (by rw [waits.waiters])

end Hushed

/-! ### Cells and meshes -/

/-- A change of one incarnation. -/
theorem hushed_modifyCell (w : World β) {key : CellKey} {f : Cell β → Cell β}
    (hears : ∀ c, w.cells.get? key = some c → ¬ busy key → c.phase ≠ .starting → c.Hears v (f c))
    (sealed : ∀ c, w.cells.get? key = some c → c.Sealed v → (f c).Sealed v) :
    Hushed v busy w (w.modifyCell key f) where
  hears j c hc idle begun := by
    rw [get?_modifyCell, hc]
    split
    · rename_i hj
      subst hj
      exact ⟨f c, rfl, hears c hc idle begun⟩
    · exact ⟨c, rfl, .refl c⟩
  sealed j c' hc' before := by
    rw [get?_modifyCell] at hc'
    split at hc'
    · rename_i hj
      subst hj
      obtain ⟨c, hc, rfl⟩ := Option.map_eq_some_iff.mp hc'
      exact sealed c hc (before c hc)
    · exact before c' hc'
  errands _ task' at' := Or.inl ⟨task', at', rfl⟩
  reply := rfl

theorem hushed_hears (w : World β) {key : CellKey} {f : Cell β → Cell β}
    (hears : ∀ c : Cell β, c.Hears v (f c)) : Hushed v busy w (w.modifyCell key f) :=
  hushed_modifyCell w (fun c _ _ _ => hears c) fun c _ sealed => (hears c).sealed sealed

theorem hushed_modifyMesh (w : World β) (mesh : MeshId) (f : Mesh → Mesh) :
    Hushed v busy w (w.modifyMesh mesh f) :=
  .of_eq rfl rfl rfl

theorem hushed_enlist (w : World β) (j : Job) : Hushed v busy w (w.enlist j) :=
  .of_eq (enlist_cells w j) (confined_enlist w j).apart.tasks
    (by rw [(confined_enlist w j).apart.waiters])

theorem hushed_accept (w : World β) (key : CellKey) {e : Event} (he : e.Omits v) :
    Hushed v busy w (w.accept key e) :=
  (hushed_hears w fun c => .accept c he).trans (hushed_enlist _ _)

/-- **Sending events** that omit the waiter is hushed. -/
theorem carries_hushed : Carries (Hushed (β := β) v busy) (·.Omits v) where
  refl := Hushed.refl
  trans := Hushed.trans
  accept w _ _ key _ _ he := hushed_accept w key he
  record w bench f := .of_apart (aside_record w bench f) (confined_record w bench f).apart

/-- **Taking cells and routes out of meshes** is hushed. -/
theorem clears_hushed : Clears (Hushed (β := β) v busy) where
  refl := Hushed.refl
  trans := Hushed.trans
  modifyMesh w mesh f _ := hushed_modifyMesh w mesh f
  close w _ := hushed_hears w fun c => .close c
  enlist := hushed_enlist

/-! ### Tasks, waiters and scenes -/

/-- A change of how far tasks have come. -/
theorem hushed_modifyTask (w : World β) {t : TaskId} {f : Task → Task}
    (same : ∀ task, (f task).errand = task.errand) :
    Hushed v busy w { w with tasks := w.tasks.modify t f } := by
  refine .of_tasks rfl (fun j task' at' => Or.inl ?_) rfl
  rw [Table.get?_modify] at at'
  split at at'
  · obtain ⟨task, at_, rfl⟩ := Option.map_eq_some_iff.mp at'
    exact ⟨task, at_, same task⟩
  · exact ⟨task', at', rfl⟩

theorem hushed_spawn (w : World β) {errand : Errand} (h : errand.Omits v) :
    Hushed v busy w (w.spawn errand).2 := by
  have adding : Hushed v busy w { w with tasks := w.tasks.add { errand } } := by
    refine .of_tasks rfl (fun j task' at' => ?_) rfl
    rw [Table.get?_add] at at'
    split at at'
    · cases at'
      exact Or.inr h
    · exact Or.inl ⟨task', at', rfl⟩
  unfold spawn
  dsimp only
  split
  · exact adding.trans (hushed_enlist _ _)
  · exact (adding.trans (hushed_modifyMesh _ _ _)).trans (hushed_enlist _ _)

theorem hushed_abort (w : World β) (t : TaskId) : Hushed v busy w (w.abort t) := by
  rcases abort_cases w t with aborted | aborted
  · rw [aborted]
    exact .refl w
  · rw [aborted]
    exact (hushed_modifyTask w (f := fun task => { task with doomed := true }) fun _ => rfl).trans
      (hushed_enlist _ _)

theorem hushed_cancelReminder (w : World β) (r : ReminderId) :
    Hushed v busy w (w.cancelReminder r) := by
  unfold cancelReminder
  split
  · exact .refl w
  · rename_i reminder _
    have calledOff : Hushed v busy w { w with
        reminders := w.reminders.modify r fun _ => { cancelled := true, task := none } } :=
      .of_eq rfl rfl rfl
    dsimp only
    split
    · exact calledOff
    · exact calledOff.trans (hushed_abort _ _)

theorem hushed_attach (w : World β) (r : ReminderId) (t : TaskId) :
    Hushed v busy w (w.attach r t) := by
  unfold attach
  split
  · exact hushed_abort w t
  · exact .of_eq rfl rfl rfl

theorem hushed_emitAfter (w : World β) (outlet : Outlet) (delay : Duration) {e : Event}
    (he : e.Omits v) : Hushed v busy w (w.emitAfter outlet delay e).2 := by
  have reminding : Hushed v busy w w.addReminder.2 := .of_eq rfl rfl rfl
  cases outlet with
  | cell mesh key id generation =>
    have spawned : Hushed v busy w.addReminder.2
        (w.addReminder.2.spawn (.remind key w.addReminder.1 delay e)).2 := hushed_spawn _ he
    exact (reminding.trans spawned).trans (hushed_attach _ _ _)
  | bench bench id => exact .of_eq rfl rfl rfl

theorem hushed_answer (w : World β) {u : WaiterId} (p : Payload) (other : u ≠ v) :
    Hushed v busy w (w.answer u p).2 := by
  have filling : Hushed v busy w { w with waiters := w.waiters.set u p } := by
    refine .of_eq rfl rfl ?_
    rw [show ({ w with waiters := w.waiters.set u p } : World β).waiters = w.waiters.set u p from rfl,
      Table.reply?_set, if_neg fun both => other both.1]
  exact filling.trans (clears_hushed.wake _)

theorem hushed_addWaiter (w : World β) : Hushed v busy w w.addWaiter.2 :=
  .of_eq rfl rfl (Table.reply?_add w.waiters v)

theorem hushed_store (w : World β) (scene : SceneId) (key : String) (p : Payload) :
    Hushed v busy w (w.store scene key p).2 := by
  cases found : w.scenes.get? scene with
  | none =>
    rw [store, found]
    exact .refl w
  | some board =>
    rcases store_cases found key p with ⟨q, -, stored⟩ | ⟨-, stored⟩
    · rw [stored]
      exact .refl w
    · rw [stored]
      refine Hushed.trans ?_ (clears_hushed.wake _)
      exact .of_eq rfl rfl rfl

/-! ### Scripts -/

/-- An incarnation that is conceived knows what its seed knows. -/
theorem hushed_conceive (w : World β) (mesh : MeshId) (id : CellId) {seed : β}
    (hs : Discreet v seed) : Hushed v busy w (w.conceive mesh id seed).2.2 := by
  have cells : (w.conceive mesh id seed).2.2.cells =
      w.cells.add { mesh, id, generation := (w.conceive mesh id seed).2.1, resident := seed } := rfl
  refine ⟨fun j c hc _ _ => ⟨c, ?_, .refl c⟩, fun j c' hc' before => ?_,
    fun t task' at' => Or.inl ⟨task', at', rfl⟩, rfl⟩
  · rw [cells, Table.get?_add_of_get? hc]
  · rw [cells, Table.get?_add] at hc'
    split at hc'
    · cases hc'
      exact ⟨hs, nofun⟩
    · exact before c' hc'

/-- An incarnation that has not begun is let in or turned away; nothing has to be shown of what it
hears. -/
theorem hushed_letIn {w : World β} {key : CellKey} {c : Cell β} (hc : w.cells.get? key = some c)
    (starting : c.phase = .starting) {resident : β} (discreet : Discreet v resident) (mesh : MeshId)
    (id : CellId) (outcome : Outcome) :
    Hushed v busy w (w.letIn mesh id key resident outcome).2 := by
  have judging (f : Cell β → Cell β) (hf : ∀ c, (f c).resident = resident ∧
      (f c).queue = c.queue) : Hushed v busy w (w.modifyCell key f) := by
    refine hushed_modifyCell w (fun d hd _ begun => ?_) fun d hd sealed => ?_
    · rw [hc] at hd
      cases hd
      exact absurd starting begun
    · exact ⟨(hf d).1 ▸ discreet, (hf d).2 ▸ sealed.queue⟩
  rcases letIn_cases w mesh id key resident outcome with judged | ⟨-, -, judged⟩
  · rw [judged, modifyCell, modifyCell, Table.modify_modify]
    exact judging _ fun _ => ⟨rfl, rfl⟩
  · rw [judged, register]
    refine ((Hushed.trans ?_ (hushed_modifyMesh _ _ _))).trans (hushed_enlist _ _)
    rw [modifyCell, modifyCell, Table.modify_modify]
    exact judging _ fun _ => ⟨rfl, rfl⟩

/-- The incarnation of a start makes its first call and is let in or turned away. -/
theorem hushed_startWith (w : World β) (mesh : MeshId) (id : CellId) {seed : β}
    (hs : Discreet v seed) {firstCall : Outlet → World β → β × Outcome × World β}
    (h : ∀ outlet w, Hushed v busy w (firstCall outlet w).2.2 ∧
      Discreet v (firstCall outlet w).1)
    (course : ∀ outlet w, Course w (firstCall outlet w).2.2) :
    Hushed v busy w (w.startWith mesh id seed firstCall).2 := by
  unfold startWith
  split
  · exact .refl w
  · dsimp only
    obtain ⟨calling, discreet⟩ := h (.cell mesh w.cells.next id (w.conceive mesh id seed).2.1)
      (w.conceive mesh id seed).2.2
    obtain ⟨c, hc, nascent⟩ := nascent_conceive w mesh id seed (course _ _)
    exact ((hushed_conceive w mesh id hs).trans calling).trans
      (hushed_letIn hc nascent.phase discreet mesh id _)

/-- **Performing a discreet script is hushed**, and it ends in a behavior that does not know the waiter.
-/
theorem hushed_perform {s : Script β} (h : s.Discreet v (Discreet v)) (w : World β) :
    Hushed v busy w (perform s w).2.2 ∧ Discreet v (perform s w).1 := by
  have first {w w₁ : World β} {r : β × Outcome × World β} (h : Hushed v busy w w₁)
      (h' : Hushed v busy w₁ r.2.2 ∧ Discreet v r.1) : Hushed v busy w r.2.2 ∧ Discreet v r.1 :=
    ⟨h.trans h'.1, h'.2⟩
  induction s generalizing w with
  | finish next outcome => exact ⟨.refl w, h⟩
  | survey k ih => exact ih _ (h _) w
  | build values k ih =>
    have omits : values.Omits v → (w.make (Serials.makePayload values)).1.Omits v := fun hv => hv.new _
    have making : Hushed v busy w (w.make (Serials.makePayload values)).2 := .of_eq rfl rfl rfl
    rw [perform]
    exact first making (ih _ (h _ omits) _)
  | create topic values scene k ih =>
    have omits : values.Omits v → (w.make (Event.make topic values scene w.clock.wall)).1.Omits v :=
      fun hv => hv.new _
    have making : Hushed v busy w (w.make (Event.make topic values scene w.clock.wall)).2 :=
      .of_eq rfl rfl rfl
    rw [perform]
    exact first making (ih _ (h _ omits) _)
  | emit outlet e k ih => exact first (carries_hushed.emit w outlet h.1) (ih _ (h.2 _) _)
  | emitTo outlet target e k ih => exact first (carries_hushed.emitTo w outlet target h.1) (ih _ (h.2 _) _)
  | emitAfter outlet delay e k ih =>
    exact first (hushed_emitAfter w outlet delay h.1) (ih _ (h.2 _) _)
  | cancelReminder reminder k ih => exact first (hushed_cancelReminder w reminder) (ih h _)
  | answer u p k ih => exact first (hushed_answer w p h.1) (ih _ (h.2 _) _)
  | store scene key p k ih => exact first (hushed_store w scene key p) (ih _ (h _) _)
  | start mesh id seed init k ihInit ih =>
    have starting : Hushed v busy w (w.startWith mesh id seed fun outlet w =>
        perform (init outlet) w).2 :=
      hushed_startWith w mesh id h.1 (fun outlet w => ihInit outlet (h.2.1 outlet) w)
        fun outlet w => course_perform (init outlet) w
    exact first starting (ih _ (h.2.2 _) _)
  | stopMesh mesh k ih => exact first (clears_hushed.beginShutdown w mesh) (ih h _)

/-! ### Turns of cells -/

/-- A call of the loop of a busy incarnation that leaves a behavior which does not know the waiter. -/
theorem hushed_after (w : World β) {key : CellKey} (loop : busy key) (call : Call) {resident : β}
    (h : Discreet v resident) : Hushed v busy w (w.modifyCell key (·.after call resident)) :=
  hushed_modifyCell w (fun _ _ idle _ => absurd loop idle) fun _ _ sealed => ⟨h, sealed.queue⟩

/-- The loop of a busy incarnation empties its queue. -/
theorem hushed_empty (w : World β) {key : CellKey} (loop : busy key) (phase : Phase) :
    Hushed v busy w (w.modifyCell key fun c => { c with phase, queue := [] }) :=
  hushed_modifyCell w (fun _ _ idle _ => absurd loop idle) fun _ _ sealed => ⟨sealed.resident, nofun⟩

theorem hushed_finish (w : World β) {key : CellKey} (loop : busy key) {resident : β}
    (h : Discreet v resident) : Hushed v busy w (w.finish key resident) := by
  have leaving := (hushed_empty (v := v) w loop .ended).trans (clears_hushed.deregister _ key)
  have calling : Hushed v busy _ _ ∧ _ :=
    hushed_perform ((discretion_discreet v).terminate resident h)
      ((w.modifyCell key fun c => { c with phase := .ended, queue := [] }).deregister key)
  exact ((leaving.trans calling.1).trans (hushed_after _ loop _ calling.2)).trans (clears_hushed.wake _)

theorem hushed_rescue (w : World β) {key : CellKey} (loop : busy key) {resident : β}
    (h : Discreet v resident) (fault : BehaviorError) :
    Hushed v busy w (w.rescue key resident fault) := by
  have calling : Hushed v busy w _ ∧ _ :=
    hushed_perform ((discretion_discreet v).recover resident fault h) w
  unfold rescue
  generalize perform (Behavior.recover resident fault) w = result at calling ⊢
  obtain ⟨resident, outcome, w₁⟩ := result
  have called := calling.1.trans (hushed_after _ loop (.recover fault outcome) calling.2)
  dsimp only
  split
  · exact called
  · exact called.trans (hushed_finish _ loop calling.2)
  · exact (called.trans (hushed_empty _ loop _)).trans (clears_hushed.wake _)

/-- The handling of an event that does not mention the waiter. -/
theorem hushed_handle (w : World β) {key : CellKey} (loop : busy key) {resident : β}
    (h : Discreet v resident) {e : Event} (he : e.Omits v) :
    Hushed v busy w (w.handle key resident e) := by
  have taking : Hushed v busy w (w.modifyCell key fun c => { c with queue := c.queue.tail }) :=
    hushed_modifyCell w (fun _ _ idle _ => absurd loop idle) fun _ _ sealed =>
      ⟨sealed.resident, fun e he => sealed.queue e (List.mem_of_mem_tail he)⟩
  have calling : Hushed v busy _ _ ∧ _ :=
    hushed_perform ((discretion_discreet v).process resident e h he)
      (w.modifyCell key fun c => { c with queue := c.queue.tail })
  unfold handle
  dsimp only
  generalize perform (Behavior.process resident e) _ = result at calling ⊢
  obtain ⟨resident, outcome, w₁⟩ := result
  have called := (taking.trans calling.1).trans
    (hushed_after _ loop (.process e outcome) calling.2)
  dsimp only
  split
  · exact called
  · exact called
  · exact called.trans (hushed_rescue _ loop calling.2 _)

/-- The turn of an incarnation that does not know the waiter and is not told of it. -/
theorem hushed_stepCell (w : World β) {key : CellKey} (loop : busy key)
    (resident : ∀ c, w.cells.get? key = some c → Discreet v c.resident)
    (head : ∀ c e, w.cells.get? key = some c → c.queue.head? = some e → e.Omits v) :
    Hushed v busy w (w.stepCell key) := by
  unfold stepCell
  split
  · exact .of_eq rfl rfl rfl
  · rename_i c hc
    split
    · rename_i e rest hp hq
      exact hushed_handle w loop (resident c hc) (head c e hc (by rw [hq]; rfl))
    · rename_i e rest hp hq
      exact hushed_handle w loop (resident c hc) (head c e hc (by rw [hq]; rfl))
    · exact hushed_finish w loop (resident c hc)
    · exact .of_eq rfl rfl rfl

/-! ### Turns of tasks -/

/-- **What tasks do** is hushed, if they send events that omit the waiter and make another one. -/
theorem polls_hushed : Polls (Hushed (β := β) v busy) (·.Omits v) where
  toCarries := carries_hushed
  dismiss _ _ := .of_eq rfl rfl rfl
  modifyTask w _ _ same := hushed_modifyTask w same
  holdFlag _ _ _ := .of_eq rfl rfl rfl
  unholdFlag _ _ _ := .of_eq rfl rfl rfl
  request w _ _ := (hushed_addWaiter w).trans (.of_eq rfl rfl rfl)
  release := clears_hushed.release
  beginShutdown := clears_hushed.beginShutdown

omit [Behavior β] in
/-- What a task asks for in its first turn omits the waiter, unless that is the one it makes. -/
theorem asks_of_omits {w : World β} {t : TaskId} {task : Task} (h : task.errand.Omits v)
    (other : w.waiters.next = v → (w.begin t task).waiters.size ≤ w.waiters.size) :
    w.Asks (·.Omits v) task.errand := by
  obtain ⟨errand, progress, doomed, seen⟩ := task
  cases errand with
  | request mesh target topic values ctx =>
    refine omits_requestEvent h fun next => ?_
    have made := other next
    rw [begin, size_beginRequest] at made
    omega
  | tally mesh target ctx timeout =>
    refine omits_requestEvent (fun _ hq => by cases hq) fun next => ?_
    have made := other next
    rw [begin, size_beginRequest] at made
    omega
  | wait | waitFlag | watch | sleep | remind | shutdown => trivial

/-- The turn of a task that does not make the waiter. -/
theorem hushed_stepTask (w : World β) (t : TaskId)
    (h : ∀ task, w.tasks.get? t = some task → task.errand.Omits v)
    (other : w.waiters.next = v → (w.stepTask t).waiters.size ≤ w.waiters.size) :
    Hushed v busy w (w.stepTask t) := by
  refine polls_hushed.stepTask w t (fun at_ _ _ _ _ errand => ?_) fun {task} at_ live kept fresh => ?_
  · have omits := h _ at_
    rwa [errand] at omits
  · have began : w.stepTask t = (w.dismiss (.task t)).begin t task := by
      rw [stepTask_eq at_ live kept, fresh, if_neg Bool.false_ne_true]
    rw [began] at other
    exact asks_of_omits (w := w.dismiss (.task t)) (h task at_) other

/-! ### Moves -/

/-- The move does not mention the waiter. -/
def Move.Omits (v : WaiterId) : Move β → Prop
  | .start _ _ seed => Discreet v seed
  | .emit _ _ e => e.Omits v
  | .emitNew _ _ _ values => values.Omits v
  | .spawn errand => errand.Omits v
  | .answer u _ => u ≠ v
  | .openMesh .. | .share _ | .release _ | .stopCell .. | .subscribe .. | .unsubscribe .. | .abort _
  | .newReminder | .attach .. | .cancelReminder _ | .newWaiter | .newScene | .store .. | .derive _
  | .cancelScope _ | .pass _ | .jump _ | .wake | .turn _ => True

/-- Nobody but some incarnations mentions the waiter. -/
structure Quiet (v : WaiterId) (told : CellKey → Prop) (w : World β) : Prop where
  cells : ∀ j c, w.cells.get? j = some c → ¬ told j → c.Sealed v
  errands : ∀ t task, w.tasks.get? t = some task → task.errand.Omits v

theorem quiet_startingAt (wall : Wall) : Quiet v told (startingAt wall : World β) where
  cells _ _ hc := by cases hc
  errands _ _ at_ := by cases at_

/-- A world stays quiet as long as nobody mentions the waiter. -/
theorem Quiet.of_hushed (h : Quiet v told w) (hushed : Hushed v busy w w₁) :
    Quiet v told w₁ where
  cells j c' hc' untold := hushed.sealed j c' hc' fun c hc => h.cells j c hc untold
  errands t task' at' := by
    rcases hushed.errands t task' at' with ⟨task, at_, same⟩ | omits
    · rw [same]
      exact h.errands t task at_
    · exact omits

/-- **A move that does not mention a waiter is hushed**, as long as it gives no turn to those who know
the waiter and does not make it. -/
theorem hushed_act (quiet : Quiet v told w) {m : Move β} (h : m.Omits v)
    (untold : ∀ key, m = .turn (.cell key) → ¬ told key)
    (other : w.waiters.next = v → (w.act m).waiters.size ≤ w.waiters.size) :
    Hushed v (fun key => m = .turn (.cell key)) w (w.act m) := by
  cases m with
  | openMesh name requestTimeout => exact .of_eq rfl rfl rfl
  | share mesh => exact .of_eq rfl rfl rfl
  | release mesh => exact clears_hushed.release w mesh
  | start mesh id seed =>
    exact hushed_startWith w mesh id h
      (fun outlet w => hushed_perform ((discretion_discreet v).init seed outlet h) w)
      fun outlet w => course_perform _ w
  | stopCell mesh id => exact clears_hushed.stopCell w mesh id
  | subscribe mesh emitter ids => exact clears_hushed.subscribe w mesh emitter ids
  | unsubscribe mesh emitter ids => exact clears_hushed.unsubscribe w mesh emitter ids
  | emit mesh target e => exact carries_hushed.deliver w mesh target h
  | emitNew mesh target topic values =>
    have omits : (w.make (Event.make topic values none w.clock.wall)).1.Omits v := h.new _
    refine Hushed.trans ?_ (carries_hushed.deliver _ mesh target omits)
    exact .of_eq rfl rfl rfl
  | spawn errand =>
    rcases act_spawn w errand with ⟨-, same⟩ | ⟨-, spawned⟩
    · rw [same]
      exact .refl w
    · rw [spawned]
      exact hushed_spawn w h
  | abort t => exact hushed_abort w t
  | newReminder => exact .of_eq rfl rfl rfl
  | attach r t => exact hushed_attach w r t
  | cancelReminder r => exact hushed_cancelReminder w r
  | newWaiter => exact hushed_addWaiter w
  | answer u p => exact hushed_answer w p h
  | newScene => exact .of_eq rfl rfl rfl
  | store scene key p => exact hushed_store w scene key p
  | derive ctx => exact .of_eq rfl rfl rfl
  | cancelScope s =>
    refine Hushed.trans ?_ (clears_hushed.wake _)
    exact .of_eq rfl rfl rfl
  | pass nanos => exact .of_eq rfl rfl rfl
  | jump nanos => exact .of_eq rfl rfl rfl
  | wake => exact clears_hushed.wake w
  | turn j =>
    cases j with
    | cell key =>
      have sealed (c : Cell β) (hc : w.cells.get? key = some c) : c.Sealed v :=
        quiet.cells key c hc (untold key rfl)
      exact hushed_stepCell w rfl (fun c hc => (sealed c hc).resident) fun c e hc he =>
        (sealed c hc).queue e (List.mem_of_mem_head? he)
    | task t => exact hushed_stepTask w t (quiet.errands t) other

end World

end EventMesh
