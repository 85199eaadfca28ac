import EventMesh.Mesh.Turn

/-!
# Attempts

What a behavior tries to do in a call, as seen from outside: each request of its script that would
change something, in order, whether or not it succeeds (`World.attempts`). An event is seen by its
topic, its payload and its scene (`Event.notice`), not by the name and the time that tell it apart.
-/

namespace EventMesh

open Time

/-- Something that a behavior tries to do; events are seen as things of type `ε`. -/
inductive Attempt (ε : Type) where
  | emit (outlet : Outlet) (event : ε)
  | emitTo (outlet : Outlet) (target : CellId) (event : ε)
  /-- An event is to come back after a delay, unless its reminder is called off. -/
  | schedule (outlet : Outlet) (delay : Duration) (event : ε) (reminder : ReminderId)
  | cancel (reminder : ReminderId)
  | answer (waiter : WaiterId) (reply : Payload)
  | store (scene : SceneId) (key : String) (payload : Payload)
  | start (mesh : MeshId) (id : CellId)
  | stop (mesh : MeshId)

namespace Attempt

variable {ε δ : Type}

/-- The attempt with its event seen in another way. -/
def map (f : ε → δ) : Attempt ε → Attempt δ
  | .emit outlet e => .emit outlet (f e)
  | .emitTo outlet target e => .emitTo outlet target (f e)
  | .schedule outlet delay e reminder => .schedule outlet delay (f e) reminder
  | .cancel reminder => .cancel reminder
  | .answer waiter reply => .answer waiter reply
  | .store scene key payload => .store scene key payload
  | .start mesh id => .start mesh id
  | .stop mesh => .stop mesh

/-- Whether an event is sent to all subscribers. -/
def isEmit : Attempt ε → Bool
  | .emit .. => true
  | _ => false

/-- Whether an event is scheduled. -/
def isSchedule : Attempt ε → Bool
  | .schedule .. => true
  | _ => false

end Attempt

/-- What an event says. -/
structure Notice where
  topic : String
  entries : List (String × Value)
  scene : Option SceneId

/-- What an event says, without what only tells it apart. -/
def Event.notice (e : Event) : Notice := ⟨e.topic, e.payload.entries, e.scene⟩

namespace World

variable {β : Type}

/-- The attempts of a script, in order. Those of a cell that it starts are that cell's own. -/
def attempts : Script β → World β → List (Attempt Event)
  | .finish _ _, _ => []
  | .survey k, w => attempts (k w.survey) w
  | .build values k, w =>
    let (p, w) := w.make (Serials.makePayload values)
    attempts (k p) w
  | .create topic values scene k, w =>
    let (e, w) := w.make (Event.make topic values scene w.clock.wall)
    attempts (k e) w
  | .emit outlet e k, w =>
    let (r, w) := w.emit outlet e
    .emit outlet e :: attempts (k r) w
  | .emitTo outlet target e k, w =>
    let (r, w) := w.emitTo outlet target e
    .emitTo outlet target e :: attempts (k r) w
  | .emitAfter outlet delay e k, w =>
    let (reminder, w) := w.emitAfter outlet delay e
    .schedule outlet delay e reminder :: attempts (k reminder) w
  | .cancelReminder reminder k, w => .cancel reminder :: attempts k (w.cancelReminder reminder)
  | .answer waiter p k, w =>
    let (won, w) := w.answer waiter p
    .answer waiter p :: attempts (k won) w
  | .store scene key p k, w =>
    let (r, w) := w.store scene key p
    .store scene key p :: attempts (k r) w
  | .start mesh id seed init k, w =>
    let (r, w) := w.startWith mesh id seed fun outlet w => perform (init outlet) w
    .start mesh id :: attempts (k r) w
  | .stopMesh mesh k, w => .stop mesh :: attempts k (w.beginShutdown mesh).2

/-- A script that attempts nothing uses up serial numbers at most. -/
theorem perform_of_no_attempts {s : Script β} {w : World β} (silent : attempts s w = []) :
    ∃ serials, (perform s w).2.2 = { w with serials } := by
  induction s generalizing w with
  | finish next outcome => exact ⟨w.serials, rfl⟩
  | survey k ih => exact ih _ silent
  | build values k ih =>
    obtain ⟨serials, performed⟩ := ih _ silent
    exact ⟨serials, performed⟩
  | create topic values scene k ih =>
    obtain ⟨serials, performed⟩ := ih _ silent
    exact ⟨serials, performed⟩
  | emit | emitTo | emitAfter | cancelReminder | answer | store | start | stopMesh => cases silent

/-- A script whose only attempt is to schedule an event does nothing else but use up serial numbers. -/
theorem perform_of_schedule {s : Script β} {w : World β} {outlet : Outlet} {delay : Duration}
    {e : Event} {r : ReminderId} (tried : attempts s w = [.schedule outlet delay e r]) :
    ∃ drawn spent, (perform s w).2.2 =
      { ({ w with serials := drawn }.emitAfter outlet delay e).2 with serials := spent } := by
  induction s generalizing w with
  | survey k ih => exact ih _ tried
  | build values k ih =>
    obtain ⟨drawn, spent, performed⟩ := ih _ tried
    exact ⟨drawn, spent, performed⟩
  | create topic values scene k ih =>
    obtain ⟨drawn, spent, performed⟩ := ih _ tried
    exact ⟨drawn, spent, performed⟩
  | emitAfter outlet' delay' e' k ih =>
    obtain ⟨same, silent⟩ := List.cons.inj tried
    cases same
    obtain ⟨spent, performed⟩ := perform_of_no_attempts silent
    exact ⟨w.serials, spent, performed⟩
  | finish | emit | emitTo | cancelReminder | answer | store | start | stopMesh => cases tried

section Calls

variable [Behavior β]

/-- What becomes of a behavior that handles an event, and what it tries to do. -/
def handling (w : World β) (b : β) (e : Event) : β × List (Attempt Event) :=
  ((perform (Behavior.process b e) w).1, attempts (Behavior.process b e) w)

/-- The same for events handled one after the other, each in a world of its own. -/
def handlings (b : β) : List (World β × Event) → β × List (Attempt Event)
  | [] => (b, [])
  | (w, e) :: calls =>
    let (next, tried) := w.handling b e
    let (last, rest) := handlings next calls
    (last, tried ++ rest)

end Calls

theorem enlist_eq (w : World β) (j : Job) : w.enlist j = { w with ready := (w.enlist j).ready } := by
  unfold enlist
  split <;> rfl

theorem abort_eq (w : World β) (t : TaskId) :
    w.abort t = { w with tasks := (w.abort t).tasks, ready := (w.abort t).ready } := by
  unfold abort
  split
  · rw [enlist_eq]
  · rfl

/-- Calling a reminder off changes that reminder, and tasks that may go on. -/
theorem cancelReminder_eq (w : World β) (r : ReminderId) :
    w.cancelReminder r = { w with
      reminders := w.reminders.modify r fun _ => { cancelled := true, task := none }
      tasks := (w.cancelReminder r).tasks
      ready := (w.cancelReminder r).ready } := by
  unfold cancelReminder
  split
  · rename_i unknown
    rw [Table.modify_eq_self unknown]
  · dsimp only
    split
    · rfl
    · rw [abort_eq]

theorem cancelReminder_clock (w : World β) (r : ReminderId) :
    (w.cancelReminder r).clock = w.clock := by
  rw [cancelReminder_eq]

end World

end EventMesh
