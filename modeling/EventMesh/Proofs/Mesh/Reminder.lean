import EventMesh.Behavior.Actor
import EventMesh.Proofs.Mesh.Ages
import EventMesh.Proofs.Mesh.Agenda
import EventMesh.Proofs.Mesh.Delivery

/-!
# Reminders

An incarnation that schedules an event gets a reminder, and a task sleeps and then sends the event
back (`Booking`). Until it is over the task sleeps long enough, no other reminder knows it, and it is
given up with its own only (`Booked`); what one turn of it does is said once (`Delivers`,
`enters_iff`); and what keeps the event back once, a call-off, the end of the incarnation or of its
mesh, keeps it back for good (`Bars`). Main statement: the event of a reminder comes to the
incarnation that scheduled it, once at most, not early, and not after anything that keeps it back; and
if nothing does when the timer rings, it comes (`reminder_reaches_its_own`).
-/

namespace EventMesh

open Function Time

/-- What a call that schedules an event sets up. -/
structure Booking where
  /-- The incarnation that is to get the event. -/
  cell : CellKey
  reminder : ReminderId
  delay : Duration
  event : Event
  /-- The task that delivers the event. -/
  task : TaskId
  /-- When the call was made. -/
  since : Instant

/-- What the task of a booking is there to do. -/
def Booking.errand (k : Booking) : Errand := .remind k.cell k.reminder k.delay k.event

namespace World

variable {β : Type}

/-! ### The task of a booking -/

/-- When a task that is to sleep for a span wakes up; one that has not begun would begin now. -/
def bell? (w : World β) (span : Duration) : Progress → Option Instant
  | .fresh => some (w.wakeTime span)
  | .sleeping until_ => some until_
  | .waiting _ _ | .watching _ | .joining _ | .finished _ | .aborted => none

/-- A wake-up that comes no earlier than the delay asks for, unless the clock has no reading so
late. -/
def Sleeps (w : World β) (k : Booking) (b : Instant) : Prop :=
  k.since.nanos + k.delay.nanos ≤ b.nanos ∨ Instant.bound ≤ w.now.nanos + k.delay.nanos

/-- A task on its way to deliver an event: it sleeps long enough, no other reminder knows it, and it
is given up only after its own was called off. -/
structure Booked (w : World β) (k : Booking) (task : Task) : Prop where
  known : w.tasks.get? k.task = some task
  errand : task.errand = k.errand
  stage : task.progress = .fresh ∨ task.isOver = true ∨
    ∃ b, task.progress = .sleeping b ∧ w.Sleeps k b
  doomed : task.doomed = true → w.isCancelled k.reminder = true
  since : k.since ≤ w.now
  alone : ∀ r reminder, w.reminders.get? r = some reminder → reminder.task = some k.task →
    r = k.reminder

section Turn

variable {w w' : World β} {k : Booking} {t : TaskId} {task task' : Task} {b : Instant}

theorem not_over_of_bell {span : Duration} (bell : w.bell? span task.progress = some b) :
    task.isOver = false := by
  obtain ⟨errand, progress, doomed, seen⟩ := task
  cases progress with
  | fresh | sleeping | waiting | watching | joining => rfl
  | finished | aborted => cases bell

theorem Sleeps.later {later : World β} (h : w.Sleeps k b) (now : w.now ≤ later.now) :
    later.Sleeps k b :=
  h.imp_right fun bound => Nat.le_trans bound (Nat.add_le_add_right now _)

/-- A sleep that begins after the call is long enough. -/
theorem sleeps_wakeTime (since : k.since ≤ w.now) : w.Sleeps k (w.wakeTime k.delay) := by
  have later : k.since.nanos ≤ w.now.nanos := since
  by_cases h : w.now.nanos + k.delay.nanos < Instant.bound
  · have wakes : (w.wakeTime k.delay).nanos = w.now.nanos + k.delay.nanos := by
      simp [wakeTime, Instant.add?, h]
    exact Or.inl (by omega)
  · exact Or.inr (Nat.le_of_not_lt h)

/-- A task that goes on has a time to wake up. -/
theorem Booked.rings_at (h : w.Booked k task) :
    task.isOver = true ∨ ∃ b, w.bell? k.delay task.progress = some b ∧ w.Sleeps k b := by
  rcases h.stage with fresh | past | ⟨b, sleeping, long⟩
  · exact Or.inr ⟨w.wakeTime k.delay, by rw [fresh]; rfl, sleeps_wakeTime h.since⟩
  · exact Or.inl past
  · exact Or.inr ⟨b, by rw [sleeping]; rfl, long⟩

/-! ### The turn of the task -/

/-- The world in which a task sleeps until it wakes up. -/
def doze (w : World β) (t : TaskId) (task : Task) (b : Instant) : World β :=
  if task.isBegun then w.dismiss (.task t) else (w.dismiss (.task t)).setProgress t (.sleeping b)

/-- The world in which an event was sent to the incarnation that scheduled it, unless it was called
off. -/
def sendBack (w : World β) (k : Booking) : World β :=
  if w.isCancelled k.reminder then w else w.deliverTo k.cell k.event

theorem get?_doze {span : Duration} (at_ : w.tasks.get? t = some task)
    (bell : w.bell? span task.progress = some b) :
    (w.doze t task b).tasks.get? t = some { task with progress := .sleeping b } := by
  obtain ⟨errand, progress, doomed, seen⟩ := task
  unfold doze
  cases progress with
  | fresh => exact get?_setProgress (w := w.dismiss (.task t)) at_ _
  | sleeping until_ =>
    cases bell
    exact at_
  | waiting | watching | joining | finished | aborted => cases bell

theorem tasks_sendBack (w : World β) (k : Booking) : (w.sendBack k).tasks = w.tasks := by
  unfold sendBack
  split
  · rfl
  · exact (carries_confined.deliverTo w k.cell trivial).apart.tasks

/-- **The turn of a task** that is not given up: it sends the event back if it is time. -/
theorem stepTask_booked (at_ : w.tasks.get? k.task = some task) (errand : task.errand = k.errand)
    (kept : task.doomed = false) (bell : w.bell? k.delay task.progress = some b) :
    w.stepTask k.task =
      if b ≤ w.now then ((w.doze k.task task b).sendBack k).conclude k.task .reminded
      else w.doze k.task task b := by
  obtain ⟨task_errand, progress, doomed, seen⟩ := task
  cases errand
  cases progress with
  | fresh =>
    cases bell
    rw [stepTask_eq at_ rfl kept]
    rfl
  | sleeping until_ =>
    cases bell
    rw [stepTask_eq at_ rfl kept]
    rfl
  | waiting | watching | joining | finished | aborted => cases bell

/-! ### Bookings stay -/

/-- No program has a hand on the task. -/
theorem Booked.not_own (h : w.Booked k task) : ¬ w.IsOwn k.task := by
  rintro ⟨task', known, other⟩
  rw [h.known] at known
  cases known
  rw [h.errand] at other
  exact other trivial

/-- A booking stays if its task stays on its way. -/
theorem Booked.later (h : w.Booked k task) (jot : Jot w w')
    (known : w'.tasks.get? k.task = some task') (errand : task'.errand = task.errand)
    (stage : task'.progress = task.progress ∨ task'.isOver = true ∨
      ∃ b, task'.progress = .sleeping b ∧ w'.Sleeps k b)
    (doomed : task'.doomed = true → task.doomed = true ∨ w'.isCancelled k.reminder = true) :
    w'.Booked k task' := by
  refine ⟨known, errand.trans h.errand, ?_, fun given => ?_, Nat.le_trans h.since jot.now_le, ?_⟩
  · rcases stage with same | further
    · rcases h.stage with fresh | past | ⟨b, sleeping, long⟩
      · exact Or.inl (same.trans fresh)
      · refine Or.inr (Or.inl ?_)
        rwa [Task.isOver, same]
      · exact Or.inr (Or.inr ⟨b, same.trans sleeping, long.later jot.now_le⟩)
    · exact Or.inr further
  · exact (doomed given).elim (fun before => jot.isCancelled (h.doomed before)) id
  · intro r reminder' found knows
    rcases jot.reminder found knows with ⟨reminder, before, knew⟩ | own | ⟨new, -⟩
    · exact h.alone r reminder before knew
    · exact absurd own h.not_own
    · exact absurd new (Table.ne_next_of_get? h.known)

/-- The task is still on its way after a turn, or it is over. -/
theorem Booked.turn (h : w.Booked k task) : ∃ task', (w.stepTask k.task).Booked k task' ∧
    (task.isOver = true → task'.isOver = true) ∧
    ∀ b, w.bell? k.delay task.progress = some b → b ≤ w.now → task'.isOver = true := by
  rcases h.rings_at with past | ⟨b, bell, long⟩
  · have still : (w.stepTask k.task).tasks.get? k.task = some task := by
      rw [stepTask_over h.known past]
      exact h.known
    exact ⟨task, h.later (.turn k.task) still rfl (Or.inl rfl) Or.inl, id, fun _ _ _ => past⟩
  have going := not_over_of_bell bell
  cases doomed : task.doomed with
  | true =>
    have ended : (w.stepTask k.task).tasks.get? k.task =
        some { task with progress := .aborted, seen := w.waiters } := by
      rw [stepTask_doomed h.known going doomed]
      exact get?_endTask (w := w.dismiss (.task k.task)) h.known .aborted
    exact ⟨_, h.later (.turn k.task) ended rfl (Or.inr (Or.inl rfl)) Or.inl, fun _ => rfl,
      fun _ _ _ => rfl⟩
  | false =>
    have turned := stepTask_booked h.known h.errand doomed bell
    have dozing := get?_doze h.known bell
    by_cases due : b ≤ w.now
    · have ended : (w.stepTask k.task).tasks.get? k.task = some { task with
          progress := .finished .reminded, seen := ((w.doze k.task task b).sendBack k).waiters } := by
        rw [← tasks_sendBack _ k] at dozing
        have ended := get?_endTask dozing (.finished .reminded)
        rwa [turned, if_pos due]
      exact ⟨_, h.later (.turn k.task) ended rfl (Or.inr (Or.inl rfl)) Or.inl, fun _ => rfl,
        fun _ _ _ => rfl⟩
    · have asleep : (w.stepTask k.task).tasks.get? k.task =
          some { task with progress := .sleeping b } := by
        rw [turned, if_neg due, dozing]
      have still := long.later (Jot.turn k.task).now_le
      refine ⟨_, h.later (.turn k.task) asleep rfl (Or.inr (Or.inr ⟨b, rfl, still⟩)) Or.inl,
        fun past => ?_, fun b' bell' due' => ?_⟩
      · rw [going] at past
        cases past
      · rw [bell] at bell'
        cases bell'
        exact absurd due' due

/-- **A booking stays**, whatever happens, and its task stays over once it is. -/
theorem Booked.jot (h : w.Booked k task) (jot : Jot w w') :
    ∃ task', w'.Booked k task' ∧ (task.isOver = true → task'.isOver = true) := by
  rcases jot.task h.known with rfl | same | ⟨given, own | ⟨r, reminder, found, knows, off⟩⟩
  · obtain ⟨task', booked, past, -⟩ := h.turn
    exact ⟨task', booked, past⟩
  · exact ⟨task, h.later jot same rfl (Or.inl rfl) Or.inl, id⟩
  · exact absurd own h.not_own
  · have its := h.alone r reminder found knows
    exact ⟨_, h.later jot given rfl (Or.inl rfl) fun _ => Or.inr (its ▸ off), id⟩

theorem Booked.beats {hand hand' : CellKey → Hand} (h : w.Booked k task)
    (later : Beats w hand w' hand') :
    ∃ task', w'.Booked k task' ∧ (task.isOver = true → task'.isOver = true) := by
  induction later with
  | refl => exact ⟨task, h, id⟩
  | tail _ b ih =>
    obtain ⟨task₁, booked, past⟩ := ih
    obtain ⟨task₂, booked', past'⟩ := booked.jot b.jot
    exact ⟨task₂, booked', fun before => past' (past before)⟩

end Turn

/-! ### What enters a queue -/

/-- Whether an incarnation takes what is sent to it alone. -/
def Takes (w : World β) (key : CellKey) : Prop :=
  ∃ c, w.cells.get? key = some c ∧ w.isAlive c.mesh = true ∧ w.route c.mesh c.id = .ok key

/-- What has to be so for the task of a booking to deliver the event in its turn. -/
structure Delivers (w : World β) (k : Booking) (task : Task) : Prop where
  kept : task.doomed = false
  rings : ∃ b, w.bell? k.delay task.progress = some b ∧ b ≤ w.now
  live : w.isCancelled k.reminder = false
  takes : w.Takes k.cell

/-- Whether the turn of a task puts something into the queue of an incarnation. -/
def Enters (w : World β) (t : TaskId) (j : CellKey) : Prop :=
  (w.stepTask t).acceptedBy j ≠ w.acceptedBy j

section Enters

variable {w w' : World β} {k : Booking} {task : Task} {b : Instant}

theorem cells_accept (w : World β) (key : CellKey) (e : Event) :
    (w.accept key e).cells = w.cells.modify key (·.accept e) := by
  rw [accept, enlist_cells, modifyCell]

theorem deliverTo_of_takes {key : CellKey} (takes : w.Takes key) (e : Event) :
    w.deliverTo key e = w.accept key e := by
  obtain ⟨c, hc, held, leads⟩ := takes
  simp only [deliverTo, hc, held, leads, if_true]

theorem deliverTo_of_not_takes {key : CellKey} (h : ¬ w.Takes key) (e : Event) :
    w.deliverTo key e = w := by
  rcases deliverTo_cases w key e with same | ⟨c, hc, held, leads, -⟩
  · exact same
  · exact absurd ⟨c, hc, held, leads⟩ h

theorem cells_doze (w : World β) (t : TaskId) (task : Task) (b : Instant) :
    (w.doze t task b).cells = w.cells := by
  unfold doze
  split <;> rfl

theorem isCancelled_doze (w : World β) (t : TaskId) (task : Task) (b : Instant) (r : ReminderId) :
    (w.doze t task b).isCancelled r = w.isCancelled r := by
  unfold doze
  split <;> rfl

theorem takes_doze (w : World β) (t : TaskId) (task : Task) (b : Instant) (key : CellKey) :
    (w.doze t task b).Takes key ↔ w.Takes key := by
  unfold doze
  split <;> exact Iff.rfl

/-- The end of a task of a booking changes no incarnation. -/
theorem cells_endTask {t : TaskId} (at_ : w.tasks.get? t = some task)
    (errand : task.errand = k.errand) (last : Progress) :
    (w.endTask t last).cells = w.cells := by
  simp only [endTask, at_, letGo, errand, Booking.errand]

/-- **What the turn of a task does to incarnations**: the one that scheduled the event accepts it, or
nothing happens. -/
theorem Booked.cells (h : w.Booked k task) :
    w.Delivers k task ∧ (w.stepTask k.task).cells = w.cells.modify k.cell (·.accept k.event) ∨
      ¬ w.Delivers k task ∧ (w.stepTask k.task).cells = w.cells := by
  rcases h.rings_at with past | ⟨b, bell, -⟩
  · refine Or.inr ⟨fun delivers => ?_, ?_⟩
    · obtain ⟨b, bell, -⟩ := delivers.rings
      rw [not_over_of_bell bell] at past
      cases past
    · rw [stepTask_over h.known past]
      rfl
  cases doomed : task.doomed with
  | true =>
    refine Or.inr ⟨fun delivers => ?_, ?_⟩
    · rw [delivers.kept] at doomed
      cases doomed
    · rw [stepTask_doomed h.known (not_over_of_bell bell) doomed]
      exact cells_endTask (w := w.dismiss (.task k.task)) h.known h.errand _
  | false =>
    have turned := stepTask_booked h.known h.errand doomed bell
    by_cases due : b ≤ w.now
    · have sent : (w.stepTask k.task).cells = ((w.doze k.task task b).sendBack k).cells := by
        have dozing := get?_doze h.known bell
        rw [← tasks_sendBack _ k] at dozing
        rw [turned, if_pos due]
        exact cells_endTask dozing h.errand _
      rw [sendBack, isCancelled_doze] at sent
      rw [sent]
      cases off : w.isCancelled k.reminder with
      | true =>
        refine Or.inr ⟨fun delivers => ?_, by rw [if_pos rfl, cells_doze]⟩
        rw [delivers.live] at off
        cases off
      | false =>
        rw [if_neg Bool.false_ne_true]
        by_cases takes : w.Takes k.cell
        · refine Or.inl ⟨⟨doomed, ⟨b, bell, due⟩, off, takes⟩, ?_⟩
          rw [deliverTo_of_takes ((takes_doze ..).mpr takes), cells_accept, cells_doze]
        · refine Or.inr ⟨fun delivers => takes delivers.takes, ?_⟩
          rw [deliverTo_of_not_takes (fun taken => takes ((takes_doze ..).mp taken)), cells_doze]
    · refine Or.inr ⟨fun delivers => ?_, by rw [turned, if_neg due, cells_doze]⟩
      obtain ⟨b', bell', due'⟩ := delivers.rings
      rw [bell] at bell'
      cases bell'
      exact due due'

theorem acceptedBy_of_cells (h : w'.cells = w.cells) (j : CellKey) :
    w'.acceptedBy j = w.acceptedBy j := by
  rw [acceptedBy, h, acceptedBy]

/-- A turn puts the event into the queue of the incarnation that scheduled it, and into no other, just
if it delivers. -/
theorem Booked.enters_iff (h : w.Booked k task) (j : CellKey) :
    w.Enters k.task j ↔ j = k.cell ∧ w.Delivers k task := by
  unfold Enters
  rcases h.cells with ⟨delivers, accepted⟩ | ⟨kept, same⟩
  · obtain ⟨c, -, -, leads⟩ := delivers.takes
    rw [acceptedBy_of_cells (accepted.trans (cells_accept w k.cell k.event).symm),
      acceptedBy_accept leads]
    by_cases hj : k.cell = j
    · simp [hj, delivers]
    · simp [hj, Ne.symm hj]
  · simp [acceptedBy_of_cells same, kept]

/-- What was delivered was not delivered early. -/
theorem Booked.notEarly (h : w.Booked k task) (delivers : w.Delivers k task) : w.Sleeps k w.now := by
  obtain ⟨b, bell, due⟩ := delivers.rings
  rcases h.rings_at with past | ⟨b', bell', long⟩
  · rw [not_over_of_bell bell] at past
    cases past
  · rw [bell] at bell'
    cases bell'
    exact long.imp_left fun late => Nat.le_trans late due

/-- What was delivered is not delivered again. -/
theorem Booked.once {hand hand' : CellKey → Hand} (h : w.Booked k task)
    (delivers : w.Delivers k task) (later : Beats (w.stepTask k.task) hand w' hand') (j : CellKey) :
    ¬ w'.Enters k.task j := by
  intro again
  obtain ⟨b, bell, due⟩ := delivers.rings
  obtain ⟨task₁, turned, -, past₁⟩ := h.turn
  obtain ⟨task₂, booked, past₂⟩ := turned.beats later
  obtain ⟨-, delivers'⟩ := (booked.enters_iff j).mp again
  obtain ⟨b', bell', -⟩ := delivers'.rings
  have past := past₂ (past₁ b bell due)
  rw [not_over_of_bell bell'] at past
  cases past

end Enters

/-! ### What keeps an event back -/

/-- What keeps the event of a reminder back from an incarnation: it was called off, the incarnation
is not registered any more, its mesh is shut down or nobody holds it. -/
inductive Bars (w : World β) (key : CellKey) (r : ReminderId) : Prop
  | cancelled (h : w.isCancelled r = true)
  | left {c : Cell β} (hc : w.cells.get? key = some c) (started : c.phase ≠ .starting)
      (left : w.lookUp c.mesh c.id ≠ some key)
  | stopping {c : Cell β} {m : Mesh} (hc : w.cells.get? key = some c)
      (hm : w.meshes.get? c.mesh = some m) (h : m.stopping = true)
  | dropped {c : Cell β} (hc : w.cells.get? key = some c) (h : w.IsGone c.mesh)

section Bars

variable {w w' : World β} {hand hand' : CellKey → Hand} {key : CellKey} {r : ReminderId}

/-- What an incarnation that takes something is like. -/
theorem Takes.running (takes : w.Takes key) : ∃ c m, w.cells.get? key = some c ∧
    c.phase = .running ∧ w.meshes.get? c.mesh = some m ∧ m.stopping = false ∧ m.isAlive = true := by
  obtain ⟨c, hc, held, leads⟩ := takes
  obtain ⟨m, c', hm, going, -, hc', running⟩ := route_ok leads
  rw [hc] at hc'
  cases hc'
  refine ⟨c, m, hc, running, hm, going, ?_⟩
  simpa [isAlive, hm] using held

/-- **What keeps an event back keeps it back for good.** -/
theorem Bars.later (bars : w.Bars key r) (coherent : Each Cell.Coherent w hand)
    (orderly : w.Orderly) (h : Beats w hand w' hand') :
    ¬ (w'.isCancelled r = false ∧ w'.Takes key) := by
  rintro ⟨live, takes⟩
  obtain ⟨c', m', hc', running, hm', going, held⟩ := takes.running
  have aged {c : Cell β} (hc : w.cells.get? key = some c) : c.Ages c' := by
    obtain ⟨c'', hc'', older⟩ := ages_steps coherent h.steps hc
    rw [hc'] at hc''
    cases hc''
    exact older
  cases bars with
  | cancelled off =>
    rw [h.isCancelled off] at live
    cases live
  | @left c hc started left =>
    have before : c.phase = .starting ∨ c.phase = .running :=
      Phase.Reaches.of_running (running ▸ (aged hc).phase)
    rcases before with starting | ran
    · exact started starting
    · exact left (orderly.listed key c hc ran)
  | @stopping c m hc hm stopping =>
    obtain ⟨m'', hm'', still⟩ := stopping_steps h.steps hm stopping
    rw [← (aged hc).mesh, hm'] at hm''
    cases hm''
    rw [going] at still
    cases still
  | @dropped c hc gone =>
    obtain ⟨m'', hm'', dead⟩ := h.gone gone
    rw [← (aged hc).mesh, hm'] at hm''
    cases hm''
    rw [held] at dead
    cases dead

/-- Nobody is turned away who ever took something. -/
theorem Takes.not_refused (takes : w.Takes key) (coherent : Each Cell.Coherent w hand)
    (h : Beats w hand w' hand') {c : Cell β} (hc : w'.cells.get? key = some c) :
    c.phase ≠ .refused := by
  intro refused
  obtain ⟨c₀, m, hc₀, running, -⟩ := takes.running
  obtain ⟨c', hc', older⟩ := ages_steps coherent h.steps hc₀
  rw [hc] at hc'
  cases hc'
  rcases Phase.Reaches.of_refused (refused ▸ older.phase) with hp | hp
  · rw [running] at hp
    cases hp
  · rw [running] at hp
    cases hp

/-- An incarnation that was turned away is not registered. -/
theorem bars_of_refused (orderly : w.Orderly) {c : Cell β} (hc : w.cells.get? key = some c)
    (refused : c.phase = .refused) : w.Bars key r := by
  refine .left hc (by rw [refused]; nofun) fun named => ?_
  obtain ⟨c', hc', -, -, bound⟩ := orderly.found c.mesh c.id key named
  rw [hc] at hc'
  cases hc'
  rw [refused] at bound
  rcases bound with hp | hp <;> cases hp

/-- An incarnation whose loop goes on takes its event unless something keeps it back. -/
theorem takes_of_not_bars (orderly : w.Orderly) (free : ¬ w.Bars key r) {c : Cell β}
    (hc : w.cells.get? key = some c) (going : c.phase = .running ∨ c.phase = .draining) :
    w.Takes key := by
  have named : w.lookUp c.mesh c.id = some key := by
    by_contra left
    refine free (.left hc (fun starting => ?_) left)
    rw [starting] at going
    rcases going with hp | hp <;> cases hp
  have running : c.phase = .running := by
    obtain ⟨c', hc', -, -, bound⟩ := orderly.found c.mesh c.id key named
    rw [hc] at hc'
    cases hc'
    rcases going with hp | hp
    · exact hp
    · rw [hp] at bound
      rcases bound with hb | hb <;> cases hb
  obtain ⟨m, hm, registered⟩ := Option.bind_eq_some_iff.mp named
  have serving : m.stopping = false :=
    Bool.eq_false_iff.mpr fun stopping => free (.stopping hc hm stopping)
  have held : m.isAlive = true := by
    by_contra dead
    exact free (.dropped hc ⟨m, hm, Bool.eq_false_iff.mpr dead⟩)
  refine ⟨c, hc, by simp [isAlive, hm, held], ?_⟩
  have taker : w.taker? m c.id = some key := by
    simp [taker?, registered, hc, Cell.isOpen, running]
  simp [route, ifOpen, hm, serving, taker]

end Bars

/-! ### Reminders -/

/-- What a call at this moment that schedules an event for an incarnation sets up. -/
def booking (w : World β) (cell : CellKey) (delay : Duration) (event : Event) : Booking :=
  { cell, reminder := w.reminders.next, delay, event, task := w.tasks.next, since := w.now }

/-- Whether the timer of a booking rings if its task gets a turn now. -/
def Rings (w : World β) (k : Booking) : Prop :=
  ∃ task b, w.tasks.get? k.task = some task ∧ w.bell? k.delay task.progress = some b ∧ b ≤ w.now

/-- What a call that scheduled an event comes to, from the moment at which it returns on. -/
structure RemindsItsOwn (called : ReminderId × World β) (hand : CellKey → Hand) (k : Booking) :
    Prop where
  returned : called.1 = k.reminder
  spawned : called.2.tasks.get? k.task = some { errand := k.errand }
  /-- The event enters the queue of the incarnation that scheduled it, and no other queue. -/
  own : ∀ {w : World β} {hand' : CellKey → Hand}, Beats called.2 hand w hand' → ∀ j,
    w.Enters k.task j →
      j = k.cell ∧ (w.stepTask k.task).cells = w.cells.modify k.cell (·.accept k.event)
  /-- It does so once at most. -/
  once : ∀ {w w' : World β} {hand' hand'' : CellKey → Hand}, Beats called.2 hand w hand' →
    ∀ i, w.Enters k.task i → Beats (w.stepTask k.task) hand' w' hand'' →
      ∀ j, ¬ w'.Enters k.task j
  /-- It does not do so before the delay is over, unless the clock has no reading so late. -/
  notEarly : ∀ {w : World β} {hand' : CellKey → Hand}, Beats called.2 hand w hand' → ∀ j,
    w.Enters k.task j → k.since.nanos + k.delay.nanos ≤ w.now.nanos ∨
      Instant.bound ≤ w.now.nanos + k.delay.nanos
  /-- It does not do so once the reminder was called off, the incarnation left the registry or its
  mesh was shut down or let go of. -/
  barred : ∀ {w w' : World β} {hand' hand'' : CellKey → Hand}, Beats called.2 hand w hand' →
    w.Bars k.cell k.reminder → Beats w hand' w' hand'' → ∀ j, ¬ w'.Enters k.task j
  /-- It does not do so, earlier or later, if the incarnation is turned away. -/
  refused : ∀ {w : World β} {hand' : CellKey → Hand}, Beats called.2 hand w hand' → ∀ c,
    w.cells.get? k.cell = some c → c.phase = .refused →
      (∀ {w₀ : World β} {hand₀ : CellKey → Hand}, Beats called.2 hand w₀ hand₀ →
        Beats w₀ hand₀ w hand' → ∀ j, ¬ w₀.Enters k.task j) ∧
      ∀ {w' : World β} {hand'' : CellKey → Hand}, Beats w hand' w' hand'' →
        ∀ j, ¬ w'.Enters k.task j
  /-- It does so when the timer rings, if nothing of that kind happened and the loop of the
  incarnation goes on. -/
  rings : ∀ {w : World β} {hand' : CellKey → Hand}, Beats called.2 hand w hand' → w.Rings k →
    ¬ w.Bars k.cell k.reminder → ∀ c, w.cells.get? k.cell = some c →
      c.phase = .running ∨ c.phase = .draining → w.Enters k.task k.cell

section Reminders

variable {w : World β} {hand : CellKey → Hand}

/-- The call sets up what it is to set up. -/
theorem booked_emitAfter (h : w.Acquainted) (mesh : MeshId) (key : CellKey) (id : CellId)
    (generation : Nat) (delay : Duration) (e : Event) :
    (w.emitAfter (.cell mesh key id generation) delay e).2.Booked (w.booking key delay e)
      { errand := (w.booking key delay e).errand } := by
  refine ⟨?_, rfl, Or.inl rfl, nofun, ?_, ?_⟩
  · rw [tasks_emitAfter, booking, Table.get?_add, if_pos rfl]
    rfl
  · rw [now_emitAfter]
    exact Nat.le_refl _
  · intro r reminder found knows
    rw [reminders_emitAfter] at found
    split at found
    · assumption
    · obtain ⟨task, known⟩ := h r reminder _ found knows
      rw [booking, Table.get?_next] at known
      cases known

/-- **The event of a reminder comes to the incarnation that scheduled it**, or not at all. Whatever
happens after the call (runs of programs among it: `beats_run`), the event enters the queue of that
incarnation and no other, once at most, and not before its delay is over; it does not come once the
reminder was called off, the incarnation left the registry, or its mesh was shut down or let go of,
nor to an incarnation that is turned away; and it comes when its timer rings, if nothing of that kind
happened and the loop goes on. -/
theorem reminder_reaches_its_own (wall : Wall) (h : Beats (startingAt wall) atRest w hand)
    (mesh : MeshId) (key : CellKey) (id : CellId) (generation : Nat) (delay : Duration) (e : Event) :
    RemindsItsOwn (w.emitAfter (.cell mesh key id generation) delay e) hand
      (w.booking key delay e) := by
  have first := booked_emitAfter (acquainted_beats h) mesh key id generation delay e
  have calling : Beats (startingAt wall) atRest
      (w.emitAfter (.cell mesh key id generation) delay e).2 hand :=
    h.trans (beats_emitAfter w hand (.cell mesh key id generation) delay e)
  have returned : (w.emitAfter (.cell mesh key id generation) delay e).1 =
      (w.booking key delay e).reminder := rfl
  generalize w.emitAfter (.cell mesh key id generation) delay e = called
    at first calling returned ⊢
  generalize w.booking key delay e = k at first returned ⊢
  have coherent {w : World β} {hand' : CellKey → Hand} (later : Beats called.2 hand w hand') :
      Each Cell.Coherent w hand' :=
    (calling.trans later).steps.each Cell.Coherent.invariant
  have orderly {w : World β} {hand' : CellKey → Hand} (later : Beats called.2 hand w hand') :
      w.Orderly :=
    orderly_steps (calling.trans later).steps
  have delivers {w : World β} {hand' : CellKey → Hand} (later : Beats called.2 hand w hand')
      {j : CellKey} (enters : w.Enters k.task j) :
      j = k.cell ∧ ∃ task, w.Booked k task ∧ w.Delivers k task := by
    obtain ⟨task, booked, -⟩ := first.beats later
    obtain ⟨its, delivers⟩ := (booked.enters_iff j).mp enters
    exact ⟨its, task, booked, delivers⟩
  have barred {w w' : World β} {hand' hand'' : CellKey → Hand} (later : Beats called.2 hand w hand')
      (bars : w.Bars k.cell k.reminder) (latest : Beats w hand' w' hand'') (j : CellKey) :
      ¬ w'.Enters k.task j := by
    intro enters
    obtain ⟨-, task, -, delivers⟩ := delivers (later.trans latest) enters
    exact bars.later (coherent later) (orderly later) latest ⟨delivers.live, delivers.takes⟩
  refine ⟨returned, first.known, ?_, ?_, ?_, barred, ?_, ?_⟩
  · intro w hand' later j enters
    obtain ⟨its, task, booked, delivers⟩ := delivers later enters
    rcases booked.cells with ⟨-, accepted⟩ | ⟨kept, -⟩
    · exact ⟨its, accepted⟩
    · exact absurd delivers kept
  · intro w w' hand' hand'' later i enters latest j
    obtain ⟨-, task, booked, delivers⟩ := delivers later enters
    exact booked.once delivers latest j
  · intro w hand' later j enters
    obtain ⟨-, task, booked, delivers⟩ := delivers later enters
    exact booked.notEarly delivers
  · intro w hand' later c hc refused
    refine ⟨fun {w₀ hand₀} earlier until_then j enters => ?_, fun latest j => ?_⟩
    · obtain ⟨-, task, -, delivers⟩ := delivers earlier enters
      exact delivers.takes.not_refused (coherent earlier) until_then hc refused
    · exact barred later (bars_of_refused (orderly later) hc refused) latest j
  · intro w hand' later rings free c hc going
    obtain ⟨task, booked, -⟩ := first.beats later
    obtain ⟨task', b, known, bell, due⟩ := rings
    rw [booked.known] at known
    cases known
    have live : w.isCancelled k.reminder = false :=
      Bool.eq_false_iff.mpr fun off => free (.cancelled off)
    have kept : task.doomed = false :=
      Bool.eq_false_iff.mpr fun doomed => free (.cancelled (booked.doomed doomed))
    exact (booked.enters_iff k.cell).mpr
      ⟨rfl, kept, ⟨b, bell, due⟩, live, takes_of_not_bars (orderly later) free hc going⟩

end Reminders

/-- A cell that runs. -/
def waitingActor : World (Resident Actor) :=
  (startingAt ⟨0, 0⟩).run [
    .openMesh "mesh" (.ofMillis 1000),
    .start ⟨0⟩ ⟨"a"⟩ (.custom { rules := [] })]

/-- An event to come back to it. -/
def chime : Event := (StateT.run (m := Id) (Event.make "chime" .empty none ⟨0, 0⟩) {}).1

/-- Five milliseconds later, after the first turn of the task. -/
def dueActor : World (Resident Actor) :=
  (waitingActor.emitAfter (.cell ⟨0⟩ ⟨0⟩ ⟨"a"⟩ 1) (.ofMillis 5) chime).2.run
    [.turn (.task ⟨0⟩), .pass 5000000]

/-- The event comes then, and not a second time. -/
theorem reminder_reaches_its_own_dueActor :
    dueActor.Enters ⟨0⟩ ⟨0⟩ ∧
      (dueActor.stepTask ⟨0⟩).cells = dueActor.cells.modify ⟨0⟩ (·.accept chime) ∧
      ∀ moves, (dueActor.stepTask ⟨0⟩).Fairly moves →
        ∀ j, ¬ ((dueActor.stepTask ⟨0⟩).run moves).Enters ⟨0⟩ j := by
  have before : Beats (startingAt ⟨0, 0⟩) atRest waitingActor atRest :=
    beats_run ⟨trivial, trivial, trivial⟩
  have later : Beats (waitingActor.emitAfter (.cell ⟨0⟩ ⟨0⟩ ⟨"a"⟩ 1) (.ofMillis 5) chime).2 atRest
      dueActor atRest := beats_run ⟨trivial, trivial, trivial⟩
  have steps := ((before.trans (beats_emitAfter ..)).trans later).steps
  have reminds := reminder_reaches_its_own ⟨0, 0⟩ before ⟨0⟩ ⟨0⟩ ⟨"a"⟩ 1 (.ofMillis 5) chime
  have rings : dueActor.Rings (waitingActor.booking ⟨0⟩ (.ofMillis 5) chime) :=
    ⟨_, _, rfl, rfl, by decide⟩
  have runs : ∃ c, dueActor.cells.get? ⟨0⟩ = some c ∧ c.phase = .running := ⟨_, rfl, rfl⟩
  have takes : dueActor.Takes ⟨0⟩ := ⟨_, rfl, rfl, rfl⟩
  obtain ⟨c, hc, running⟩ := runs
  have free : ¬ dueActor.Bars ⟨0⟩ ⟨0⟩ := fun bars =>
    bars.later (steps.each Cell.Coherent.invariant) (orderly_steps steps) .refl ⟨rfl, takes⟩
  have enters := reminds.rings later rings free c hc (Or.inl running)
  exact ⟨enters, (reminds.own later _ enters).2, fun moves fair =>
    reminds.once later _ enters (beats_run fair)⟩

end World

end EventMesh
