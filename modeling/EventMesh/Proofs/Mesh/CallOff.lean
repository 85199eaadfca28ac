import EventMesh.Proofs.Mesh.Agenda
import EventMesh.Proofs.Wait.Poll

/-!
# Calling reminders off

A reminder is told of the task that delivers its event, and it is called off; both may happen more than
once and in any order, through whatever copies of the reminder there are, while the rest of the world goes
on (`Used`). What the reminder holds is read off the calls (`Reminder.after`). Main statement: before the
first call-off no task is given up; the first gives up the task that was attached last; afterwards each
task is given up as it is attached, and nothing else is (`reminder_calls`). So it makes no difference
whether a task is attached before or after the call-off.
-/

namespace EventMesh

/-- What is done with a reminder. -/
inductive ReminderCall where
  | attach (t : TaskId)
  | cancel
  deriving DecidableEq

/-- The task that a call attaches. -/
def ReminderCall.task? : ReminderCall → Option TaskId
  | .attach t => some t
  | .cancel => none

/-- The task that was attached last. -/
def lastAttached? (calls : List ReminderCall) : Option TaskId :=
  (calls.filterMap ReminderCall.task?).getLast?

/-- What a reminder holds after the calls. One that was called off holds no task. -/
def Reminder.after (calls : List ReminderCall) : Reminder :=
  if .cancel ∈ calls then { cancelled := true, task := none }
  else { cancelled := false, task := lastAttached? calls }

@[simp] theorem lastAttached?_attach (calls : List ReminderCall) (t : TaskId) :
    lastAttached? (calls ++ [.attach t]) = some t := by
  simp [lastAttached?, ReminderCall.task?]

namespace World

variable {β : Type} {w w' : World β} {r : ReminderId} {calls : List ReminderCall}

/-- The worlds in which a reminder was used as the calls tell, since it was made. A copy of a reminder is
the reminder itself. -/
inductive Used : ReminderId → List ReminderCall → World β → Prop
  | new (w : World β) : Used w.addReminder.1 [] w.addReminder.2
  | attach {r : ReminderId} {calls : List ReminderCall} {w : World β} (h : Used r calls w) (t : TaskId) :
      Used r (calls ++ [.attach t]) (w.attach r t)
  | cancel {r : ReminderId} {calls : List ReminderCall} {w : World β} (h : Used r calls w) :
      Used r (calls ++ [.cancel]) (w.cancelReminder r)
  /-- Anything may happen that has nothing to do with the reminder. -/
  | meanwhile {r : ReminderId} {calls : List ReminderCall} {w w' : World β} (h : Used r calls w)
      (kept : w'.reminders.get? r = w.reminders.get? r) : Used r calls w'

/-- What calls make of a world: the reminder changes, and nothing else but the tasks given up. -/
structure CallsOff (r : ReminderId) (calls : List ReminderCall) (w : World β) : Prop where
  called_off : w.isCancelled r = true ↔ .cancel ∈ calls
  attach_before : .cancel ∉ calls → ∀ t, w.attach r t =
    { w with reminders := w.reminders.modify r fun _ => { cancelled := false, task := some t } }
  first_cancel : .cancel ∉ calls →
    let off : World β :=
      { w with reminders := w.reminders.modify r fun _ => { cancelled := true, task := none } }
    w.cancelReminder r = (lastAttached? calls).elim off off.abort
  attach_after : .cancel ∈ calls → ∀ t, w.attach r t = w.abort t
  later_cancel : .cancel ∈ calls → w.cancelReminder r = w
  /-- With a single task the order makes no difference, and the task ends for it. -/
  either_order : calls = [] → ∀ t,
    (w.attach r t).cancelReminder r = (w.cancelReminder r).attach r t ∧
      ∀ task, w.tasks.get? t = some task → task.isOver = false →
        (((w.attach r t).cancelReminder r).stepTask t).progress? t = some .aborted

section Calls

variable (known : w.reminders.get? r = some (.after calls))
include known

theorem isCancelled_iff_mem : w.isCancelled r = true ↔ .cancel ∈ calls := by
  rw [isCancelled, known, Option.any_some, Reminder.after]
  split <;> simp_all

/-- Attaching a task to a reminder that was not called off replaces the one that was attached before. -/
theorem attach_of_not_mem (open_ : .cancel ∉ calls) (t : TaskId) : w.attach r t =
    { w with reminders := w.reminders.modify r fun _ => { cancelled := false, task := some t } } := by
  have going : ¬w.isCancelled r = true := mt (isCancelled_iff_mem known).mp open_
  rw [attach, if_neg going, Table.modify_congr known]
  rw [Reminder.after, if_neg open_]

theorem attach_of_mem (off : .cancel ∈ calls) (t : TaskId) : w.attach r t = w.abort t := by
  rw [attach, if_pos ((isCancelled_iff_mem known).mpr off)]

theorem cancelReminder_of_not_mem (open_ : .cancel ∉ calls) :
    let off : World β :=
      { w with reminders := w.reminders.modify r fun _ => { cancelled := true, task := none } }
    w.cancelReminder r = (lastAttached? calls).elim off off.abort := by
  intro off
  have held : (Reminder.after calls).task = lastAttached? calls := by
    rw [Reminder.after, if_neg open_]
  simp only [cancelReminder, known, held]
  cases lastAttached? calls <;> rfl

/-- Nothing is left to be called off. -/
theorem cancelReminder_of_mem (off : .cancel ∈ calls) : w.cancelReminder r = w := by
  have held : Reminder.after calls = { cancelled := true, task := none } := if_pos off
  have same : (w.reminders.modify r fun _ => { cancelled := true, task := none }) = w.reminders := by
    rw [← held, Table.modify_congr known (g := fun reminder => reminder) rfl, Table.modify_id]
  simp only [cancelReminder, known, same, held]

end Calls

/-- A call leaves the reminder with what the calls tell. -/
theorem Used.get? (h : Used r calls w) : w.reminders.get? r = some (.after calls) := by
  induction h with
  | new w => simp [addReminder, Table.get?_add, Reminder.after, lastAttached?]
  | @attach r calls w h t ih =>
    by_cases off : .cancel ∈ calls
    · rw [attach_of_mem ih off, reminders_abort, ih]
      simp [Reminder.after, off]
    · rw [attach_of_not_mem ih off, Table.get?_modify, if_pos rfl, ih]
      simp [Reminder.after, off]
  | @cancel r calls w h ih =>
    rw [reminders_cancelReminder, Table.get?_modify, if_pos rfl, ih]
    simp [Reminder.after]
  | meanwhile h kept ih => rw [kept, ih]

/-- A task that is given up is doomed and ends in its next turn, unless it was over. -/
theorem progress?_stepTask_abort {t : TaskId} {task : Task} (known : w.tasks.get? t = some task)
    (going : task.isOver = false) : ((w.abort t).stepTask t).progress? t = some .aborted := by
  have doomed : (w.abort t).tasks.get? t = some { task with doomed := true } := by
    rw [abort, known, Option.any_some, going]
    simp [tasks_enlist, Table.get?_modify, known]
  exact progress?_stepTask_doomed doomed going rfl

/-- A new reminder that is told of a task and called off gives up the task, whichever comes first. -/
theorem Used.either_order (h : Used r [] w) (t : TaskId) :
    let off : World β :=
      { w with reminders := w.reminders.modify r fun _ => { cancelled := true, task := none } }
    (w.attach r t).cancelReminder r = off.abort t ∧ (w.cancelReminder r).attach r t = off.abort t := by
  intro off
  constructor
  · have attached := attach_of_not_mem h.get? (by simp) t
    rw [cancelReminder_of_not_mem (h.attach t).get? (by simp), lastAttached?_attach, attached]
    simp only [Table.modify_modify]
    rfl
  · have called := cancelReminder_of_not_mem h.get? (by simp)
    rw [attach_of_mem h.cancel.get? (by simp), called]
    rfl

/-- **Calling off and attaching agree in every order.** However a reminder was used, it counts as called
off from the first call-off on. No task is given up before; the first call-off gives up the task that was
attached last, if any; each task attached afterwards is given up at once; and no later call-off does
anything. -/
theorem reminder_calls (h : Used r calls w) : CallsOff r calls w := by
  constructor
  · exact isCancelled_iff_mem h.get?
  · exact attach_of_not_mem h.get?
  · exact cancelReminder_of_not_mem h.get?
  · exact attach_of_mem h.get?
  · exact cancelReminder_of_mem h.get?
  · rintro rfl t
    obtain ⟨attached, called⟩ := h.either_order t
    refine ⟨attached.trans called.symm, ?_⟩
    intro task known going
    rw [attached]
    exact progress?_stepTask_abort known going

/-- A world with three tasks that are to sleep. -/
def threeSleepers : World Unit :=
  let errand : Errand := .sleep { nanos := 5 }
  (((startingAt ⟨0, 0⟩).spawn errand).2.spawn errand).2.spawn errand |>.2

/-- Two tasks are attached, and the second is given up. So is a third one that comes later, and a second
call-off in between does nothing. -/
theorem reminder_calls_threeSleepers :
    let r := threeSleepers.addReminder.1
    let w := (threeSleepers.addReminder.2.attach r ⟨0⟩).attach r ⟨1⟩
    let off : World Unit :=
      { w with reminders := w.reminders.modify r fun _ => { cancelled := true, task := none } }
    w.isCancelled r = false ∧ w.cancelReminder r = off.abort ⟨1⟩ ∧
      (w.cancelReminder r).cancelReminder r = w.cancelReminder r ∧
      (w.cancelReminder r).attach r ⟨2⟩ = (w.cancelReminder r).abort ⟨2⟩ := by
  intro r w off
  have used : Used r [.attach ⟨0⟩, .attach ⟨1⟩] w := ((Used.new threeSleepers).attach ⟨0⟩).attach ⟨1⟩
  have before := reminder_calls used
  have after := reminder_calls used.cancel
  refine ⟨?_, before.first_cancel (by simp), after.later_cancel (by simp), ?_⟩
  · rw [Bool.eq_false_iff, Ne, before.called_off]
    simp
  · exact after.attach_after (by simp) ⟨2⟩

end World

end EventMesh
