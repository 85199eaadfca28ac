import EventMesh.Proofs.Mesh.Frugal
import EventMesh.Proofs.Wait.Poll

/-!
# The agenda

The agenda of a world is its clock, its tasks and its reminders. `Jot` lists once and for all what can
happen to it; a `Beat` is one such thing together with steps of loops and deeds of anybody, and `Beats`
are any number of them, in any order, so that calls in progress, callers, tasks and the clock
interleave in any way. A program has no hand on the tasks that deliver the events of reminders
(`Errand.Reminds`), and nobody comes to hold a mesh that is gone. Main statements: time never goes back
and nothing that was called off is called on again (`Beats.now_le`, `Beats.isCancelled`), performing
any script is a sequence of beats (`beats_perform`), and so is every run of a program that keeps to
what it holds (`beats_run`).
-/

namespace EventMesh.World

open Function Time

variable {β : Type}

/-- Whether a task is one that a program spawned and may give up. -/
def IsOwn (w : World β) (t : TaskId) : Prop :=
  ∃ task, w.tasks.get? t = some task ∧ ¬ task.errand.Reminds

/-! ### Jots -/

/-- What can happen to the clock, the tasks and the reminders in one go. -/
inductive Jot (w : World β) : World β → Prop
  | apart {w' : World β} (now : w'.now = w.now) (tasks : w'.tasks = w.tasks)
      (reminders : w'.reminders = w.reminders) : Jot w w'
  | pass (nanos : Nat) : Jot w { w with clock := w.clock.advance nanos }
  | newReminder : Jot w w.addReminder.2
  | emitAfter (mesh : MeshId) (key : CellKey) (id : CellId) (generation : Nat) (delay : Duration)
      (e : Event) : Jot w (w.emitAfter (.cell mesh key id generation) delay e).2
  | cancelReminder (r : ReminderId) : Jot w (w.cancelReminder r)
  | attach (r : ReminderId) {t : TaskId} (own : w.IsOwn t) : Jot w (w.attach r t)
  | spawn {errand : Errand} (own : ¬ errand.Reminds) : Jot w (w.spawn errand).2
  | abort {t : TaskId} (own : w.IsOwn t) : Jot w (w.abort t)
  | turn (t : TaskId) : Jot w (w.stepTask t)

/-- What happens in one go: at most one entry in the agenda, with steps of loops and deeds of
anybody. -/
structure Beat (w : World β) (hand : CellKey → Hand) (w' : World β) (hand' : CellKey → Hand) :
    Prop where
  steps : Steps w hand w' hand'
  jot : Jot w w'
  gone : ∀ mesh, w.IsGone mesh → w'.IsGone mesh

/-- Beats one after the other. -/
inductive Beats (w : World β) (hand : CellKey → Hand) : World β → (CellKey → Hand) → Prop
  | refl : Beats w hand w hand
  | tail {w₁ w₂ : World β} {hand₁ hand₂ : CellKey → Hand} (h : Beats w hand w₁ hand₁)
      (b : Beat w₁ hand₁ w₂ hand₂) : Beats w hand w₂ hand₂

namespace Beats

variable {w w₁ w₂ : World β} {hand hand₁ hand₂ : CellKey → Hand}

theorem trans (h : Beats w hand w₁ hand₁) (h' : Beats w₁ hand₁ w₂ hand₂) :
    Beats w hand w₂ hand₂ := by
  induction h' with
  | refl => exact h
  | tail _ b ih => exact ih.tail b

theorem single (b : Beat w hand w₁ hand₁) : Beats w hand w₁ hand₁ := .tail .refl b

theorem steps (h : Beats w hand w₁ hand₁) : Steps w hand w₁ hand₁ := by
  induction h with
  | refl => exact .refl
  | tail _ b ih => exact ih.trans b.steps

/-- Nobody comes to hold a mesh that is gone. -/
theorem gone (h : Beats w hand w₁ hand₁) {mesh : MeshId} (gone : w.IsGone mesh) :
    w₁.IsGone mesh := by
  induction h with
  | refl => exact gone
  | tail _ b ih => exact b.gone mesh ih

/-- A course with an entry in the agenda. -/
theorem of_jot (course : Course w w₁) (jot : Jot w w₁)
    (gone : ∀ mesh, w.IsGone mesh → w₁.IsGone mesh) : Beats w hand w₁ hand :=
  single ⟨Steps.refl.course course, jot, gone⟩

/-- What touches no mesh and no incarnation. -/
theorem of_aside (aside : Aside w w₁) (jot : Jot w w₁) : Beats w hand w₁ hand :=
  of_jot (.aside aside) jot fun mesh gone => by rwa [IsGone, aside.meshes]

end Beats

theorem Confined.jot {w w' : World β} (h : Confined w w') : Jot w w' := by
  obtain ⟨_, _, _, _, rfl⟩ := h.only
  exact .apart rfl rfl rfl

namespace Beats

variable {w w₁ w₂ : World β} {hand hand₁ : CellKey → Hand}

/-- Steps that leave the agenda alone. -/
theorem of_confined (steps : Steps w hand w₁ hand₁) (confined : Confined w w₁)
    (frugal : Frugal w w₁) : Beats w hand w₁ hand₁ :=
  single ⟨steps, confined.jot, frugal.gone⟩

theorem of_course (course : Course w w₁) (confined : Confined w w₁) (frugal : Frugal w w₁) :
    Beats w hand w₁ hand :=
  of_confined (Steps.refl.course course) confined frugal

/-- A change of other fields. -/
theorem of_eq (cells : w₁.cells = w.cells) (meshes : w₁.meshes = w.meshes)
    (ready : w₁.ready = w.ready) (now : w₁.now = w.now) (tasks : w₁.tasks = w.tasks)
    (reminders : w₁.reminders = w.reminders) : Beats w hand w₁ hand :=
  of_aside (.of_eq cells meshes ready) (.apart now tasks reminders)

/-- A change of other fields may go ahead. -/
theorem after (h : Beats w₁ hand w₂ hand₁) (cells : w₁.cells = w.cells)
    (meshes : w₁.meshes = w.meshes) (ready : w₁.ready = w.ready) (now : w₁.now = w.now)
    (tasks : w₁.tasks = w.tasks) (reminders : w₁.reminders = w.reminders) :
    Beats w hand w₂ hand₁ :=
  (of_eq cells meshes ready now tasks reminders).trans h

end Beats

/-! ### What jots do to reminders and their tasks -/

section Entries

variable {w w' : World β}

theorem isCancelled_congr (h : w'.reminders = w.reminders) (r : ReminderId) :
    w'.isCancelled r = w.isCancelled r := by
  rw [isCancelled, h, isCancelled]

theorem reminders_enlist (w : World β) (j : Job) : (w.enlist j).reminders = w.reminders :=
  (frugal_enlist w j).reminders

theorem tasks_enlist (w : World β) (j : Job) : (w.enlist j).tasks = w.tasks :=
  (confined_enlist w j).apart.tasks

theorem reminders_abort (w : World β) (t : TaskId) : (w.abort t).reminders = w.reminders := by
  rcases abort_cases w t with same | given
  · rw [same]
  · rw [given, reminders_enlist]

theorem now_abort (w : World β) (t : TaskId) : (w.abort t).now = w.now := by
  rcases abort_cases w t with same | given
  · rw [same]
  · rw [given]
    exact (confined_enlist _ _).apart.now

/-- Giving up a task dooms it at most, and no other. -/
theorem get?_abort (w : World β) (t j : TaskId) :
    (w.abort t).tasks.get? j = w.tasks.get? j ∨
      j = t ∧ (w.abort t).tasks.get? j =
        (w.tasks.get? j).map fun task => { task with doomed := true } := by
  rcases abort_cases w t with same | given
  · rw [same]
    exact Or.inl rfl
  · rw [given, tasks_enlist, Table.get?_modify]
    split
    · rename_i ht
      exact Or.inr ⟨ht.symm, rfl⟩
    · exact Or.inl rfl

theorem reminders_spawn (w : World β) (errand : Errand) :
    (w.spawn errand).2.reminders = w.reminders := by
  unfold spawn
  dsimp only
  rw [reminders_enlist]
  split <;> rfl

theorem tasks_spawn (w : World β) (errand : Errand) :
    (w.spawn errand).2.tasks = w.tasks.add { errand } :=
  congrArg Waits.tasks (waits_spawn w errand)

theorem now_spawn (w : World β) (errand : Errand) : (w.spawn errand).2.now = w.now :=
  congrArg Waits.now (waits_spawn w errand)

/-- The world after an incarnation scheduled an event: a new reminder knows a new task. -/
theorem emitAfter_cell (w : World β) (mesh : MeshId) (key : CellKey) (id : CellId)
    (generation : Nat) (delay : Duration) (e : Event) :
    (w.emitAfter (.cell mesh key id generation) delay e).2 =
      { (w.addReminder.2.spawn (.remind key w.reminders.next delay e)).2 with
        reminders := (w.reminders.add {}).modify w.reminders.next fun reminder =>
          { reminder with task := some w.tasks.next } } := by
  have added := reminders_spawn w.addReminder.2 (.remind key w.reminders.next delay e)
  have unset : (w.addReminder.2.spawn (.remind key w.reminders.next delay e)).2.isCancelled
      w.reminders.next = false := by
    rw [isCancelled_congr added, isCancelled, addReminder, Table.get?_add, if_pos rfl]
    rfl
  show (w.addReminder.2.spawn (.remind key w.reminders.next delay e)).2.attach w.reminders.next
    w.tasks.next = _
  rw [attach, unset, added]
  rfl

theorem reminders_emitAfter (w : World β) (mesh : MeshId) (key : CellKey) (id : CellId)
    (generation : Nat) (delay : Duration) (e : Event) (r : ReminderId) :
    (w.emitAfter (.cell mesh key id generation) delay e).2.reminders.get? r =
      if r = w.reminders.next then some { task := some w.tasks.next } else w.reminders.get? r := by
  rw [emitAfter_cell, Table.get?_modify, Table.get?_add]
  by_cases hr : r = w.reminders.next
  · rw [if_pos hr, if_pos hr, if_pos hr.symm]
    rfl
  · rw [if_neg hr, if_neg hr, if_neg (Ne.symm hr)]

theorem tasks_emitAfter (w : World β) (mesh : MeshId) (key : CellKey) (id : CellId)
    (generation : Nat) (delay : Duration) (e : Event) :
    (w.emitAfter (.cell mesh key id generation) delay e).2.tasks =
      w.tasks.add { errand := .remind key w.reminders.next delay e } := by
  rw [emitAfter_cell]
  exact tasks_spawn w.addReminder.2 _

theorem now_emitAfter (w : World β) (mesh : MeshId) (key : CellKey) (id : CellId)
    (generation : Nat) (delay : Duration) (e : Event) :
    (w.emitAfter (.cell mesh key id generation) delay e).2.now = w.now := by
  rw [emitAfter_cell]
  exact now_spawn w.addReminder.2 _

/-- A reminder that is called off, and its task if it knows one. -/
theorem cancelReminder_cases (w : World β) (r : ReminderId) :
    w.reminders.get? r = none ∧ w.cancelReminder r = w ∨
      ∃ reminder w₁, w.reminders.get? r = some reminder ∧
        w₁ = { w with reminders := w.reminders.modify r fun _ => { cancelled := true, task := none } } ∧
        w.cancelReminder r = reminder.task.elim w₁ w₁.abort := by
  unfold cancelReminder
  cases found : w.reminders.get? r with
  | none => exact Or.inl ⟨rfl, rfl⟩
  | some reminder =>
    refine Or.inr ⟨reminder, _, rfl, rfl, ?_⟩
    dsimp only
    cases reminder.task <;> rfl

theorem reminders_cancelReminder (w : World β) (r : ReminderId) :
    (w.cancelReminder r).reminders =
      w.reminders.modify r fun _ => { cancelled := true, task := none } := by
  rcases cancelReminder_cases w r with ⟨unknown, same⟩ | ⟨reminder, w₁, -, rfl, called⟩
  · rw [same, Table.modify_eq_self unknown]
  · rw [called]
    cases reminder.task with
    | none => rfl
    | some t => exact reminders_abort _ t

theorem now_cancelReminder (w : World β) (r : ReminderId) : (w.cancelReminder r).now = w.now := by
  rcases cancelReminder_cases w r with ⟨-, same⟩ | ⟨reminder, w₁, -, rfl, called⟩
  · rw [same]
  · rw [called]
    cases reminder.task with
    | none => rfl
    | some t => exact now_abort _ t

theorem reminders_attach (w : World β) (r : ReminderId) (t : TaskId) :
    (w.attach r t).reminders = w.reminders ∨
      (w.attach r t).reminders =
        w.reminders.modify r fun reminder => { reminder with task := some t } := by
  unfold attach
  split
  · exact Or.inl (reminders_abort w t)
  · exact Or.inr rfl

theorem Jot.now_le (jot : Jot w w') : w.now ≤ w'.now := by
  have same {now : Instant} (h : now = w.now) : w.now ≤ now := h ▸ Nat.le_refl _
  cases jot with
  | apart now => exact same now
  | pass nanos => exact w.clock.mono_le_advance nanos
  | newReminder => exact Nat.le_refl _
  | emitAfter mesh key id generation delay e => exact same (now_emitAfter ..)
  | cancelReminder r => exact same (now_cancelReminder w r)
  | attach r own =>
    unfold World.attach
    split
    · exact same (now_abort w _)
    · exact Nat.le_refl _
  | spawn own => exact same (now_spawn w _)
  | abort own => exact same (now_abort w _)
  | turn t => exact same (spares_stepTask w t).now

/-- What was called off stays so. -/
theorem Jot.isCancelled (jot : Jot w w') {r : ReminderId} (h : w.isCancelled r = true) :
    w'.isCancelled r = true := by
  have same (w' : World β) (eq : w'.reminders = w.reminders) : w'.isCancelled r = true := by
    rw [isCancelled_congr eq, h]
  obtain ⟨reminder, known, cancelled⟩ := (Option.any_eq_true ..).mp h
  have old : r ≠ w.reminders.next := Table.ne_next_of_get? known
  have kept (w' : World β) {j : ReminderId} {f : Reminder → Reminder}
      (eq : w'.reminders = w.reminders.modify j f)
      (hf : ∀ reminder, reminder.cancelled = true → (f reminder).cancelled = true) :
      w'.isCancelled r = true := by
    rw [World.isCancelled, eq, Table.get?_modify, known]
    split
    · exact hf reminder cancelled
    · exact cancelled
  cases jot with
  | apart _ _ reminders => exact same _ reminders
  | pass => exact same _ rfl
  | newReminder =>
    rw [World.isCancelled, addReminder, Table.get?_add_of_get? known]
    exact cancelled
  | emitAfter mesh key id generation delay e =>
    rw [World.isCancelled, reminders_emitAfter, if_neg old, known]
    exact cancelled
  | cancelReminder j => exact kept _ (reminders_cancelReminder w j) fun _ _ => rfl
  | @attach j t own =>
    rcases reminders_attach w j t with eq | eq
    · exact same _ eq
    · exact kept _ eq fun _ still => still
  | spawn own => exact same _ (reminders_spawn w _)
  | @abort t own => exact same _ (reminders_abort w t)
  | turn t => exact same _ (frugal_stepTask w t).reminders

/-- A reminder comes to know a task of a program's own, or a new one. -/
theorem Jot.reminder (jot : Jot w w') {t : TaskId} {r : ReminderId} {reminder' : Reminder}
    (known : w'.reminders.get? r = some reminder') (knows : reminder'.task = some t) :
    (∃ reminder, w.reminders.get? r = some reminder ∧ reminder.task = some t) ∨ w.IsOwn t ∨
      t = w.tasks.next ∧ ∃ task, w'.tasks.get? t = some task := by
  have same {w' : World β} (eq : w'.reminders = w.reminders)
      (known : w'.reminders.get? r = some reminder') :
      ∃ reminder, w.reminders.get? r = some reminder ∧ reminder.task = some t :=
    ⟨reminder', eq ▸ known, knows⟩
  cases jot with
  | apart _ _ reminders => exact Or.inl (same reminders known)
  | pass => exact Or.inl (same rfl known)
  | newReminder =>
    rw [addReminder, Table.get?_add] at known
    split at known
    · cases known
      cases knows
    · exact Or.inl ⟨reminder', known, knows⟩
  | emitAfter mesh key id generation delay e =>
    rw [reminders_emitAfter] at known
    split at known
    · cases known
      cases knows
      refine Or.inr (Or.inr ⟨rfl, ?_⟩)
      rw [tasks_emitAfter, Table.get?_add, if_pos rfl]
      exact ⟨_, rfl⟩
    · exact Or.inl ⟨reminder', known, knows⟩
  | cancelReminder j =>
    rw [reminders_cancelReminder, Table.get?_modify] at known
    split at known
    · obtain ⟨_, -, rfl⟩ := Option.map_eq_some_iff.mp known
      cases knows
    · exact Or.inl ⟨reminder', known, knows⟩
  | @attach j t' own =>
    rcases reminders_attach w j t' with eq | eq
    · exact Or.inl (same eq known)
    · rw [eq, Table.get?_modify] at known
      split at known
      · obtain ⟨reminder, -, rfl⟩ := Option.map_eq_some_iff.mp known
        cases knows
        exact Or.inr (Or.inl own)
      · exact Or.inl ⟨reminder', known, knows⟩
  | spawn own => exact Or.inl (same (reminders_spawn w _) known)
  | @abort t' own => exact Or.inl (same (reminders_abort w t') known)
  | turn t' => exact Or.inl (same (frugal_stepTask w t').reminders known)

/-- **A task comes on in its own turns only**, and is given up by its program or with a reminder that
knows it. -/
theorem Jot.task (jot : Jot w w') {t : TaskId} {task : Task} (at_ : w.tasks.get? t = some task) :
    w' = w.stepTask t ∨ w'.tasks.get? t = some task ∨
      w'.tasks.get? t = some { task with doomed := true } ∧ (w.IsOwn t ∨ ∃ r reminder,
        w.reminders.get? r = some reminder ∧ reminder.task = some t ∧ w'.isCancelled r = true) := by
  have given {j : TaskId} (own : w.IsOwn j) : (w.abort j).tasks.get? t = some task ∨
      (w.abort j).tasks.get? t = some { task with doomed := true } ∧ w.IsOwn t := by
    rcases get?_abort w j t with same | ⟨rfl, doomed⟩
    · exact Or.inl (same.trans at_)
    · exact Or.inr ⟨doomed.trans (congrArg (Option.map _) at_), own⟩
  cases jot with
  | apart _ tasks => exact Or.inr (Or.inl (by rw [tasks, at_]))
  | pass => exact Or.inr (Or.inl at_)
  | newReminder => exact Or.inr (Or.inl at_)
  | emitAfter mesh key id generation delay e =>
    refine Or.inr (Or.inl ?_)
    rw [tasks_emitAfter, Table.get?_add_of_get? at_]
  | cancelReminder r =>
    rcases cancelReminder_cases w r with ⟨-, same⟩ | ⟨reminder, w₁, found, rfl, called⟩
    · rw [same]
      exact Or.inr (Or.inl at_)
    · have off : (w.cancelReminder r).isCancelled r = true := by
        rw [World.isCancelled, reminders_cancelReminder, Table.get?_modify, if_pos rfl, found]
        rfl
      rw [called] at off ⊢
      cases knows : reminder.task with
      | none => exact Or.inr (Or.inl at_)
      | some j =>
        rw [knows] at off
        rcases get?_abort { w with reminders := w.reminders.modify r fun _ =>
          { cancelled := true, task := none } } j t with same | ⟨rfl, doomed⟩
        · exact Or.inr (Or.inl (same.trans at_))
        · refine Or.inr (Or.inr ⟨doomed.trans ?_, Or.inr ⟨r, reminder, found, knows, off⟩⟩)
          exact congrArg (Option.map _) at_
  | @attach r j own =>
    unfold World.attach
    split
    · exact Or.inr ((given own).imp_right (And.imp_right Or.inl))
    · exact Or.inr (Or.inl at_)
  | spawn own =>
    refine Or.inr (Or.inl ?_)
    rw [tasks_spawn, Table.get?_add_of_get? at_]
  | abort own => exact Or.inr ((given own).imp_right (And.imp_right Or.inl))
  | turn j =>
    by_cases hj : t = j
    · exact Or.inl (by rw [hj])
    · exact Or.inr (Or.inl ((spares_stepTask w j).tasks t hj ▸ at_))

/-- Reminders know only tasks that there are. -/
def Acquainted (w : World β) : Prop :=
  ∀ r reminder t, w.reminders.get? r = some reminder → reminder.task = some t →
    ∃ task, w.tasks.get? t = some task

theorem Jot.acquainted (jot : Jot w w') (h : w.Acquainted) : w'.Acquainted := by
  intro r reminder' t known knows
  have still {task : Task} (at_ : w.tasks.get? t = some task) :
      ∃ task', w'.tasks.get? t = some task' := by
    rcases jot.task at_ with rfl | same | ⟨doomed, -⟩
    · obtain ⟨task', at', -⟩ := (grows_pieces (pieces_stepTask w t)).tasks t task at_
      exact ⟨task', at'⟩
    · exact ⟨task, same⟩
    · exact ⟨_, doomed⟩
  rcases jot.reminder known knows with ⟨reminder, before, knew⟩ | ⟨task, at_, -⟩ | ⟨-, new⟩
  · obtain ⟨task, at_⟩ := h r reminder t before knew
    exact still at_
  · exact still at_
  · exact new

theorem acquainted_beats {wall : Wall} {hand : CellKey → Hand}
    (h : Beats (startingAt wall) atRest w hand) : w.Acquainted := by
  induction h with
  | refl =>
    intro r reminder t known
    simp [startingAt] at known
  | tail _ b ih => exact b.jot.acquainted ih

theorem Beats.now_le {hand hand' : CellKey → Hand} (h : Beats w hand w' hand') :
    w.now ≤ w'.now := by
  induction h with
  | refl => exact Nat.le_refl _
  | tail _ b ih => exact Nat.le_trans ih b.jot.now_le

theorem Beats.isCancelled {hand hand' : CellKey → Hand} (h : Beats w hand w' hand')
    {r : ReminderId} (off : w.isCancelled r = true) : w'.isCancelled r = true := by
  induction h with
  | refl => exact off
  | tail _ b ih => exact b.jot.isCancelled ih

end Entries

/-! ### Scripts -/

theorem jot_answer (w : World β) (v : WaiterId) (p : Payload) : Jot w (w.answer v p).2 :=
  .apart (confined_wake _).apart.now (confined_wake _).apart.tasks (clears_frugal.wake _).reminders

theorem jot_store (w : World β) (scene : SceneId) (key : String) (p : Payload) :
    Jot w (w.store scene key p).2 := by
  cases found : w.scenes.get? scene with
  | none =>
    rw [store, found]
    exact .apart rfl rfl rfl
  | some board =>
    rcases store_cases found key p with ⟨q, -, stored⟩ | ⟨-, stored⟩
    · rw [stored]
      exact .apart rfl rfl rfl
    · rw [stored]
      exact .apart (confined_wake _).apart.now (confined_wake _).apart.tasks
        (clears_frugal.wake _).reminders

theorem beats_emitAfter (w : World β) (hand : CellKey → Hand) (outlet : Outlet) (delay : Duration)
    (e : Event) : Beats w hand (w.emitAfter outlet delay e).2 hand := by
  cases outlet with
  | cell mesh key id generation => exact .of_aside (aside_emitAfter w _ delay e) (.emitAfter ..)
  | bench bench id =>
    have added : Beats w hand w.addReminder.2 hand := .of_aside (.of_eq rfl rfl rfl) .newReminder
    exact added.trans (.of_eq rfl rfl rfl rfl rfl rfl)

theorem beats_startWith (w : World β) (hand : CellKey → Hand) (mesh : MeshId) (id : CellId)
    (seed : β) {firstCall : Outlet → World β → β × Outcome × World β}
    (course : ∀ outlet w, Course w (firstCall outlet w).2.2)
    (h : ∀ outlet w, Beats w hand (firstCall outlet w).2.2 hand) :
    Beats w hand (w.startWith mesh id seed firstCall).2 hand := by
  unfold startWith
  split
  · exact .refl
  · rename_i free
    have conceiving : Beats w hand (w.conceive mesh id seed).2.2 hand :=
      .of_course (.single (.conceive seed free)) (confined_conceive w mesh id seed)
        (frugal_conceive w mesh id seed)
    have calling := h (.cell mesh w.cells.next id (w.conceive mesh id seed).2.1)
      (w.conceive mesh id seed).2.2
    obtain ⟨c, hc, nascent⟩ := nascent_conceive w mesh id seed (course _ _)
    dsimp only
    rw [show (w.conceive mesh id seed).1 = w.cells.next from rfl]
    generalize firstCall (.cell mesh w.cells.next id _) _ = called at calling hc ⊢
    obtain ⟨resident, outcome, w₁⟩ := called
    dsimp only at calling hc ⊢
    have letting : Deed 0 w₁ (w₁.letIn c.mesh c.id w.cells.next resident outcome).2 :=
      .letIn resident outcome (Nat.zero_le _) hc nascent.phase
    rw [nascent.mesh, nascent.id] at letting
    exact (conceiving.trans calling).trans (.of_confined (Steps.refl.tail (.deed letting))
      (confined_letIn w₁ mesh id _ resident outcome) (frugal_letIn w₁ mesh id _ resident outcome))

theorem carries_beats (hand : CellKey → Hand) :
    Carries (fun w w' : World β => Beats w hand w' hand) fun _ => True where
  refl _ := .refl
  trans := Beats.trans
  accept w _ _ key h e _ := .of_course (.single (.accept e h)) (confined_accept w key e)
    (carries_frugal.accept w h e trivial)
  record w bench f := .of_course (.aside (aside_record w bench f)) (confined_record w bench f)
    (frugal_record w bench f)

/-- **Performing any script is a sequence of beats.** -/
theorem beats_perform (s : Script β) (w : World β) (hand : CellKey → Hand) :
    Beats w hand (perform s w).2.2 hand := by
  induction s generalizing w with
  | finish next outcome => exact .refl
  | survey k ih => exact ih _ w
  | build values k ih => exact (ih _ _).after rfl rfl rfl rfl rfl rfl
  | create topic values scene k ih => exact (ih _ _).after rfl rfl rfl rfl rfl rfl
  | emit outlet event k ih =>
    exact ((carries_beats hand).emit w outlet trivial).trans (ih _ _)
  | emitTo outlet target event k ih =>
    exact ((carries_beats hand).emitTo w outlet target trivial).trans (ih _ _)
  | emitAfter outlet delay event k ih =>
    exact (beats_emitAfter w hand outlet delay event).trans (ih _ _)
  | cancelReminder reminder k ih =>
    exact (Beats.of_aside (aside_cancelReminder w reminder) (.cancelReminder reminder)).trans (ih _)
  | answer waiter reply k ih =>
    exact (Beats.of_aside (aside_answer w waiter reply) (jot_answer w waiter reply)).trans (ih _ _)
  | store scene key payload k ih =>
    exact (Beats.of_aside (aside_store w scene key payload) (jot_store w scene key payload)).trans
      (ih _ _)
  | start mesh id seed init k ihInit ih =>
    exact (beats_startWith w hand mesh id seed (fun outlet w => course_perform (init outlet) w)
      fun outlet w => ihInit outlet w).trans (ih _ _)
  | stopMesh mesh k ih =>
    exact (Beats.of_course (.single (.beginShutdown mesh)) (clears_confined.beginShutdown w mesh)
      (clears_frugal.beginShutdown w mesh)).trans (ih _)

theorem tracks_beats : Tracks (Beats (β := β)) where
  trans := Beats.trans
  work hc h := .of_confined (Steps.refl.tail (.work hc h)) (confined_modifyCell _ _ _)
    (.of_meshes rfl rfl)
  leave hc h := .of_confined (Steps.refl.tail (.leave hc h))
    ((confined_modifyCell _ _ _).trans (clears_confined.deregister _ _))
    ((clears_frugal.deregister _ _).after rfl rfl)
  dismiss h := .of_confined (Steps.refl.tail (.dismiss h)) (confined_dismiss_cell _ _)
    (.of_meshes rfl rfl)
  wake w _ := .of_course (.aside (aside_wake w)) (confined_wake w) (clears_frugal.wake w)
  perform := beats_perform

/-! ### Runs -/

theorem beats_spawn {w : World β} (hand : CellKey → Hand) {errand : Errand}
    (own : ¬ errand.Reminds) (held : ∀ mesh, errand.holds? = some mesh → ¬ w.IsGone mesh) :
    Beats w hand (w.spawn errand).2 hand :=
  .of_jot (course_spawn w errand) (.spawn own) (frugal_spawn held).gone

/-- Whether a program that moves like this has a hand on what it moves: it gives up tasks of its own
only, and who comes to hold a mesh has it from a holder. -/
def Fair (w : World β) : Move β → Prop
  | .abort t | .attach _ t => w.IsOwn t
  | .share mesh => ¬ w.IsGone mesh
  | .spawn errand => ∀ mesh, errand.holds? = some mesh → ¬ w.IsGone mesh
  | _ => True

variable [Behavior β]

/-- Every move with what a program holds is a sequence of beats. -/
theorem beats_act {w : World β} {m : Move β} (fair : w.Fair m) :
    Beats w atRest (w.act m) atRest := by
  cases m with
  | openMesh name requestTimeout =>
    exact .of_course (.single (.openMesh name requestTimeout)) (confined_openMesh w _ _)
      (frugal_openMesh w _ _)
  | share mesh =>
    exact .of_course (.single (.hold mesh)) (confined_modifyMesh w mesh _) (frugal_hold fair)
  | release mesh =>
    exact .of_course (.single (.release mesh)) (clears_confined.release w mesh) (clears_frugal.release w mesh)
  | start mesh id seed =>
    exact beats_startWith w atRest mesh id seed (fun _ w => course_perform _ w)
      fun _ w => beats_perform _ w atRest
  | stopCell mesh id =>
    exact .of_course (.single (.stopCell mesh id)) (clears_confined.stopCell w mesh id)
      (clears_frugal.stopCell w mesh id)
  | subscribe mesh emitter ids =>
    exact .of_course (.single (.subscribe mesh emitter ids)) (clears_confined.subscribe w mesh emitter ids)
      (clears_frugal.subscribe w mesh emitter ids)
  | unsubscribe mesh emitter ids =>
    exact .of_course (.single (.unsubscribe mesh emitter ids))
      (clears_confined.unsubscribe w mesh emitter ids) (clears_frugal.unsubscribe w mesh emitter ids)
  | emit mesh target e =>
    exact (carries_beats atRest).deliver w mesh target trivial
  | emitNew mesh target topic values =>
    exact ((carries_beats atRest).deliver _ mesh target trivial).after rfl rfl rfl rfl rfl rfl
  | spawn errand =>
    rcases act_spawn w errand with ⟨-, same⟩ | ⟨own, spawned⟩
    · rw [same]
      exact .refl
    · rw [spawned]
      exact beats_spawn atRest own fair
  | abort t => exact .of_aside (aside_abort w t) (.abort fair)
  | newReminder => exact .of_aside (.of_eq rfl rfl rfl) .newReminder
  | attach r t => exact .of_aside (aside_attach w r t) (.attach r fair)
  | cancelReminder r => exact .of_aside (aside_cancelReminder w r) (.cancelReminder r)
  | newWaiter => exact .of_eq rfl rfl rfl rfl rfl rfl
  | answer waiter p => exact .of_aside (aside_answer w waiter p) (jot_answer w waiter p)
  | newScene => exact .of_eq rfl rfl rfl rfl rfl rfl
  | store scene key p => exact .of_aside (aside_store w scene key p) (jot_store w scene key p)
  | derive ctx => exact .of_eq rfl rfl rfl rfl rfl rfl
  | cancelScope s =>
    exact .of_aside (aside_cancelScope w s) (.apart (confined_wake _).apart.now
      (confined_wake _).apart.tasks (clears_frugal.wake _).reminders)
  | pass nanos => exact .of_aside (.of_eq rfl rfl rfl) (.pass nanos)
  | jump nanos => exact .of_eq rfl rfl rfl rfl rfl rfl
  | wake => exact .of_course (.aside (aside_wake w)) (confined_wake w) (clears_frugal.wake w)
  | turn j =>
    cases j with
    | cell key => exact tracks_beats.stepCell w rfl
    | task t => exact .of_jot (course_stepTask w t) (.turn t) (frugal_stepTask w t).gone

/-- Whether each of the moves of a program is fair when it makes it. -/
def Fairly (w : World β) : List (Move β) → Prop
  | [] => True
  | m :: moves => w.Fair m ∧ (w.act m).Fairly moves

theorem fairly_append {w : World β} {first second : List (Move β)} :
    w.Fairly (first ++ second) ↔ w.Fairly first ∧ (w.run first).Fairly second := by
  induction first generalizing w with
  | nil => exact ⟨fun fair => ⟨trivial, fair⟩, And.right⟩
  | cons m first ih =>
    rw [List.cons_append, Fairly, Fairly, ih, run_cons, and_assoc]

/-- **Every run is a sequence of beats**, as long as the program keeps to what it holds. -/
theorem beats_run {w : World β} {moves : List (Move β)} (fair : w.Fairly moves) :
    Beats w atRest (w.run moves) atRest := by
  induction moves generalizing w with
  | nil => exact .refl
  | cons m moves ih => exact (beats_act fair.1).trans (ih fair.2)

end EventMesh.World
