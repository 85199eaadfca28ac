import EventMesh.Proofs.Mesh.Reminder
import EventMesh.Proofs.Wait.Rendezvous

/-!
# Watches

An event that an incarnation scheduled is watched for (`Watched`) if its reminder is on and its task is
on time: the task has its first turn at the instant of the call, or it sleeps until the delay is over
by the clock of that instant (`Booking.alarm`). A task is on time as long as the clock goes on only
where nothing is ready (`ClockWaits`), since a task that has not begun is ready. Main statement: while
the reminder stays on and the incarnation takes events, an event that is watched for stays so in every
move, or it comes (`Watched.act`). Whoever takes events took them ever since its first call
(`Takes.before`).
-/

namespace EventMesh

open Time

/-- When the task of a booking wakes up if it has its first turn at the instant of the call. -/
def Booking.alarm (k : Booking) : Instant := (k.since.add? k.delay).getD k.since.farFuture

theorem Booking.alarm_eq {k : Booking} (readable : k.since.nanos + k.delay.nanos < Instant.bound) :
    k.alarm = ⟨k.since.nanos + k.delay.nanos⟩ := by
  rw [alarm, Instant.add?, if_pos readable]
  rfl

namespace World

variable {β : Type}

/-! ### Worlds of fair runs -/

/-- The world is one that a fair run leads to. -/
def Arises [Behavior β] (wall : Wall) (w : World β) : Prop :=
  ∃ moves, (startingAt wall).Fairly moves ∧ (startingAt wall).run moves = w

namespace Arises

variable [Behavior β] {wall : Wall} {w : World β}

theorem beats (h : w.Arises wall) : Beats (startingAt wall) atRest w atRest := by
  obtain ⟨moves, fair, rfl⟩ := h
  exact beats_run fair

theorem coherent (h : w.Arises wall) : Each Cell.Coherent w atRest :=
  h.beats.steps.each Cell.Coherent.invariant

theorem orderly (h : w.Arises wall) : w.Orderly := orderly_steps h.beats.steps

/-- A task that has not begun is ready. -/
theorem ready_of_fresh (h : w.Arises wall) {t : TaskId} {task : Task}
    (found : w.tasks.get? t = some task) (fresh : task.progress = .fresh) : .task t ∈ w.ready := by
  obtain ⟨moves, -, rfl⟩ := h
  obtain ⟨log, stirs⟩ := stirs_run (startingAt wall) moves
  obtain ⟨at_, alert, -⟩ := stirs.alert
  exact alert.fresh t task found fresh

/-- One fair move further. -/
theorem act (h : w.Arises wall) {m : Move β} (fair : w.Fair m) : (w.act m).Arises wall := by
  obtain ⟨moves, fairly, rfl⟩ := h
  refine ⟨moves ++ [m], fairly_append.mpr ⟨fairly, fair, trivial⟩, ?_⟩
  rw [run_append]
  rfl

end Arises

/-- The clock stands while somebody is busy. -/
theorem Busy.now {w w' : World β} (h : Busy w w') : w'.now = w.now := by
  obtain ⟨log, stirs, quiet⟩ := h
  induction stirs with
  | refl => rfl
  | @tail log marks w₁ w₂ _ s ih =>
    rw [List.mem_append, not_or] at quiet
    refine Eq.trans ?_ (ih quiet.1)
    rcases s.cases with ⟨t, -, rfl⟩ | change
    · exact (spares_stepTask w₁ t).now
    · show w₂.waits.now = w₁.now
      generalize w₂.waits = side at change ⊢
      cases change with
      | pass nanos => exact absurd (List.mem_singleton_self _) quiet.2
      | nothing | woke | addWaiter | answer | addScene | refuse | write | derive | cancel | drop
      | spawn | doom => rfl

/-! ### Rules of runs -/

/-- The clock goes on only where nothing is ready. -/
def ClockWaits (w : World β) : Move β → Prop
  | .pass _ => w.isSettled = true
  | _ => True

/-- Nothing is ready and no timer is to fire. A timer fires at the first whole millisecond that is no
earlier than its deadline, and that is still to come for all of them. -/
structure Still (w : World β) : Prop where
  settled : w.isSettled = true
  timers : ∀ t task due, w.tasks.get? t = some task → task.due? = some due →
    ∀ ms, due.nanos ≤ ms * nanosPerMilli → w.now.nanos < ms * nanosPerMilli

/-- Nobody calls a reminder off, unless an incarnation does in its turn. -/
def KeepsOff [Behavior β] (key : CellKey) (r : ReminderId) (w : World β) (m : Move β) : Prop :=
  m = .turn (.cell key) ∨ (w.isCancelled r = false → (w.act m).isCancelled r = false)

/-- Whether each of the moves of a run keeps to a rule where it is made. -/
def Obeys [Behavior β] (rule : World β → Move β → Prop) (w : World β) : List (Move β) → Prop
  | [] => True
  | m :: moves => rule w m ∧ (w.act m).Obeys rule moves

/-! ### Who takes events -/

section Takes

variable {w w' : World β} {hand hand' : CellKey → Hand} {key : CellKey} {c : Cell β}

/-- **Whoever takes what is sent to it alone did so before**, from its first call on. -/
theorem Takes.before (takes : w'.Takes key) (h : Beats w hand w' hand')
    (coherent : Each Cell.Coherent w hand) (orderly : w.Orderly) (hc : w.cells.get? key = some c)
    (begun : c.phase ≠ .starting) : w.Takes key := by
  -- A reminder that nobody has made yet keeps nothing back.
  have off : w'.isCancelled w'.reminders.next = false := by
    rw [isCancelled, Table.get?_next]
    rfl
  have free : ¬ w.Bars key w'.reminders.next := fun bars =>
    bars.later coherent orderly h ⟨off, takes⟩
  have ran : c.phase = .starting ∨ c.phase = .running := by
    obtain ⟨c', m, hc', running, -⟩ := takes.running
    obtain ⟨c'', hc'', older⟩ := ages_steps coherent h.steps hc
    cases hc'.symm.trans hc''
    exact Phase.Reaches.of_running (running ▸ older.phase)
  exact takes_of_not_bars orderly free hc (Or.inl (ran.resolve_left begun))

/-- What an incarnation accepted it accepted for good. -/
theorem acceptedBy_prefix (h : Steps w hand w' hand') (key : CellKey) :
    w.acceptedBy key <+: w'.acceptedBy key := by
  obtain ⟨log, accepts⟩ := accepts_steps h
  rw [accepts.acceptedBy]
  exact List.prefix_append _ _

/-- An incarnation that takes events handled all that it accepted but for what waits in its queue. -/
theorem Takes.accepted_eq [Behavior β] (takes : w.Takes key) {wall : Wall} (arises : w.Arises wall)
    (hc : w.cells.get? key = some c) : c.accepted = c.handled ++ c.queue := by
  obtain ⟨d, -, hd, running, -⟩ := takes.running
  cases hc.symm.trans hd
  exact accepted_eq_of_live arises.beats.steps hc (Cell.Balanced.isOver_eq_false running (by decide))

end Takes

/-! ### Watches -/

/-- The event of a booking is on its way and on time. -/
structure Watched (w : World β) (k : Booking) (task : Task) : Prop extends Booked w k task where
  live : w.isCancelled k.reminder = false
  onTime : task.progress = .fresh ∧ w.now = k.since ∨ task.progress = .sleeping k.alarm

section Watched

variable {w w' : World β} {k : Booking} {task : Task}

theorem Watched.kept (h : w.Watched k task) : task.doomed = false := by
  cases doomed : task.doomed with
  | false => rfl
  | true =>
    have off := h.doomed doomed
    rw [h.live] at off
    cases off

/-- The task wakes up at its alarm. -/
theorem Watched.bell (h : w.Watched k task) :
    w.bell? k.delay task.progress = some k.alarm := by
  rcases h.onTime with ⟨fresh, now⟩ | sleeping
  · rw [fresh, bell?, wakeTime, now]
    rfl
  · rw [sleeping]
    rfl

/-- A task that stays as it is stays on time while the clock stands. -/
theorem Watched.unchanged (h : w.Watched k task) (booked : w'.Booked k task)
    (live : w'.isCancelled k.reminder = false) (now : w'.now = w.now) : w'.Watched k task :=
  ⟨booked, live, h.onTime.imp_left fun ⟨fresh, at_⟩ => ⟨fresh, now.trans at_⟩⟩

/-- A change of other fields leaves the event watched for. -/
theorem Watched.of_eq (h : w.Watched k task) (now : w'.now = w.now) (tasks : w'.tasks = w.tasks)
    (reminders : w'.reminders = w.reminders) : w'.Watched k task := by
  have known : w'.tasks.get? k.task = some task := by
    rw [tasks]
    exact h.known
  have booked := h.toBooked.later (.apart now tasks reminders) known rfl (Or.inl rfl) Or.inl
  exact h.unchanged booked ((isCancelled_congr reminders _).trans h.live) now

/-- The turn of the task sends the event back to the incarnation, or the event is still watched for. -/
theorem Watched.turn (h : w.Watched k task) (takes : w.Takes k.cell)
    (live : (w.stepTask k.task).isCancelled k.reminder = false) :
    (∃ task', (w.stepTask k.task).Watched k task') ∨
      (w.stepTask k.task).acceptedBy k.cell = w.acceptedBy k.cell ++ [k.event] := by
  by_cases due : k.alarm ≤ w.now
  · have delivers : w.Delivers k task := ⟨h.kept, ⟨_, h.bell, due⟩, h.live, takes⟩
    rcases h.cells with ⟨-, accepted⟩ | ⟨kept, -⟩
    · obtain ⟨c, -, -, leads⟩ := takes
      refine Or.inr ?_
      rw [acceptedBy_of_cells (accepted.trans (cells_accept w k.cell k.event).symm),
        acceptedBy_accept leads, if_pos rfl]
    · exact absurd delivers kept
  · have asleep : (w.stepTask k.task).tasks.get? k.task =
        some { task with progress := .sleeping k.alarm } := by
      rw [stepTask_booked h.known h.errand h.kept h.bell, if_neg due, get?_doze h.known h.bell]
    obtain ⟨task', booked, -⟩ := h.toBooked.turn
    cases asleep.symm.trans booked.known
    exact Or.inl ⟨_, booked, live, Or.inr rfl⟩

/-- Whatever happens in one go while the clock stands and the reminder stays on, the event is still
watched for, or it came. -/
theorem Watched.jot (h : w.Watched k task) (jot : Jot w w') (now : w'.now = w.now)
    (live : w'.isCancelled k.reminder = false) (takes : w.Takes k.cell) :
    (∃ task', w'.Watched k task') ∨ w'.acceptedBy k.cell = w.acceptedBy k.cell ++ [k.event] := by
  obtain ⟨task', booked, -⟩ := h.toBooked.jot jot
  rcases jot.task h.known with rfl | same | ⟨given, -⟩
  · exact h.turn takes live
  · cases same.symm.trans booked.known
    exact Or.inl ⟨task, h.unchanged booked live now⟩
  · cases given.symm.trans booked.known
    have off := booked.doomed rfl
    rw [live] at off
    cases off

/-- **An event that is watched for stays so, or it comes**, whatever happens while the clock stands, the
reminder stays on and the incarnation takes events. -/
theorem Watched.beats (h : w.Watched k task) {wall : Wall} {hand hand' : CellKey → Hand}
    (past : Beats (startingAt wall) atRest w hand) (later : Beats w hand w' hand')
    (now : w'.now = w.now) (live : w'.isCancelled k.reminder = false) (takes : w'.Takes k.cell)
    {c : Cell β} (hc : w.cells.get? k.cell = some c) (begun : c.phase ≠ .starting) :
    (∃ task', w'.Watched k task') ∨
      k.event ∈ (w'.acceptedBy k.cell).drop (w.acceptedBy k.cell).length := by
  induction later with
  | refl => exact Or.inl ⟨task, h⟩
  | @tail w₁ w₂ hand₁ hand₂ before b ih =>
    have reached := past.trans before
    have coherent : Each Cell.Coherent w₁ hand₁ := reached.steps.each Cell.Coherent.invariant
    have stood : w₁.now = w.now := by
      have early : w.now.nanos ≤ w₁.now.nanos := before.now_le
      have late : w₁.now.nanos ≤ w₂.now.nanos := b.jot.now_le
      have same : w₂.now.nanos = w.now.nanos := congrArg Instant.nanos now
      have stood : w₁.now.nanos = w.now.nanos := by omega
      exact congrArg Instant.mk stood
    have on : w₁.isCancelled k.reminder = false := by
      refine Bool.eq_false_iff.mpr fun off => ?_
      rw [b.jot.isCancelled off] at live
      cases live
    have took : w₁.Takes k.cell := by
      obtain ⟨c₁, hc₁, older⟩ :=
        ages_steps (past.steps.each Cell.Coherent.invariant) before.steps hc
      refine takes.before (.single b) coherent (orderly_steps reached.steps) hc₁ fun starting => ?_
      exact begun (Phase.Reaches.of_starting (starting ▸ older.phase))
    have grew := acceptedBy_prefix (before.steps) k.cell
    have grows := acceptedBy_prefix b.steps k.cell
    rcases ih stood on took with ⟨task₁, watched⟩ | came
    · refine (watched.jot b.jot (now.trans stood.symm) live took).imp_right fun accepted => ?_
      rw [accepted, List.drop_append_of_le_length grew.length_le]
      exact List.mem_append_right _ (List.mem_singleton_self _)
    · refine Or.inr ?_
      obtain ⟨more, enlarged⟩ := grows
      rw [← enlarged, List.drop_append_of_le_length grew.length_le]
      exact List.mem_append_left _ came

/-- A task that is on time sleeps where nothing is ready. -/
theorem Watched.sleeps [Behavior β] (h : w.Watched k task) {wall : Wall} (arises : w.Arises wall)
    (settled : w.isSettled = true) : task.progress = .sleeping k.alarm := by
  rcases h.onTime with ⟨fresh, -⟩ | sleeping
  · have ready := arises.ready_of_fresh h.known fresh
    rw [List.isEmpty_iff.mp settled] at ready
    cases ready
  · exact sleeping

/-- **An event that is watched for stays so in a fair move, or it comes**, while the reminder stays on
and the incarnation takes events. -/
theorem Watched.act [Behavior β] (h : w.Watched k task) {wall : Wall} (arises : w.Arises wall)
    {m : Move β} (fair : w.Fair m) (clock : w.ClockWaits m)
    (live : (w.act m).isCancelled k.reminder = false) (takes : (w.act m).Takes k.cell) {c : Cell β}
    (hc : w.cells.get? k.cell = some c) (begun : c.phase ≠ .starting) :
    (∃ task', (w.act m).Watched k task') ∨
      k.event ∈ ((w.act m).acceptedBy k.cell).drop (w.acceptedBy k.cell).length := by
  by_cases passes : ∃ nanos, m = .pass nanos
  · obtain ⟨nanos, rfl⟩ := passes
    have sleeping := h.sleeps arises clock
    obtain ⟨task', booked, -⟩ := h.toBooked.jot (.pass nanos)
    cases h.known.symm.trans booked.known
    exact Or.inl ⟨task, booked, live, Or.inr sleeping⟩
  · have stood := (busy_act w m fun nanos hm => passes ⟨nanos, hm⟩).now
    exact h.beats arises.beats (beats_act fair) stood live takes hc begun

/-- **An event that is watched for is not overdue where no timer is to fire.** -/
theorem Watched.not_overdue [Behavior β] (h : w.Watched k task) {wall : Wall} (arises : w.Arises wall)
    (still : w.Still) (readable : w.now.nanos < Instant.bound) {ms : Nat}
    (late : k.since.nanos + k.delay.nanos ≤ ms * nanosPerMilli) :
    w.now.nanos < ms * nanosPerMilli := by
  have asleep := h.sleeps arises still.settled
  have later : k.alarm.nanos ≤ ms * nanosPerMilli → w.now.nanos < ms * nanosPerMilli :=
    still.timers k.task task k.alarm h.known (by rw [Task.due?, asleep]) ms
  by_cases soon : k.since.nanos + k.delay.nanos < Instant.bound
  · rw [Booking.alarm_eq soon] at later
    exact later late
  · omega

/-- A call that schedules an event sets up a watch for it. -/
theorem watched_emitAfter (h : w.Acquainted) (mesh : MeshId) (key : CellKey) (id : CellId)
    (generation : Nat) (delay : Duration) (e : Event) :
    (w.emitAfter (.cell mesh key id generation) delay e).2.Watched (w.booking key delay e)
      { errand := (w.booking key delay e).errand } := by
  refine ⟨booked_emitAfter h mesh key id generation delay e, ?_, Or.inl ⟨rfl, ?_⟩⟩
  · rw [isCancelled, reminders_emitAfter, booking, if_pos rfl]
    rfl
  · exact now_emitAfter w mesh key id generation delay e

end Watched

end World

end EventMesh
