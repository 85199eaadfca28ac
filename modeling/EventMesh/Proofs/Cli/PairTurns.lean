import EventMesh.Cli.Session
import EventMesh.Proofs.Behavior.PairMachine
import EventMesh.Proofs.Mesh.Reminder
import EventMesh.Proofs.Mesh.Settling

/-!
# Turns of a pair session

The worlds of a pair session differ in a few things only: the clock, the scene, the reminders and tasks,
what the pair cell remembers, and the two queues. A `Stage` has just these. There is one lemma for each
thing that can happen next: a tick is sent (`send_tick`), the pair cell opens a hit (`turn_first`), gets
its check (`turn_check`) or a second tick in time (`turn_second`), the observer writes a report
(`turn_report`) or fails to (`turn_repeated`), and a task sleeps, sends its check, is given up, waits
for a key or finds it (`turn_asleep`, `turn_rings`, `turn_doomed`, `turn_waits`, `turn_finds`,
`turn_answered`).
-/

namespace EventMesh.Cli

open PairMachine Time World

/-! ### Stages -/

/-- What a cell accepted and which calls it got. -/
structure Diary where
  accepted : List Event := []
  calls : List Call := [.init .done]

namespace Diary

def accept (d : Diary) (e : Event) : Diary := { d with accepted := d.accepted ++ [e] }

def after (d : Diary) (call : Call) : Diary := { d with calls := d.calls ++ [call] }

end Diary

/-- A pair session between two turns. -/
structure Stage where
  clock : Clock
  /-- How many events were made. -/
  made : Nat := 0
  flags : Flags := .empty
  board : Scene := {}
  reminders : Table .reminder Reminder := .empty
  tasks : Table .task Task := .empty
  /-- What the pair cell remembers. -/
  state : State := .idle
  /-- The queue of the pair cell. -/
  ticks : List Event := []
  pairDiary : Diary := {}
  /-- The queue of the observer. -/
  reports : List Event := []
  observerDiary : Diary := {}
  ready : List Job

def pairOutlet : Outlet := .cell ⟨0⟩ ⟨0⟩ ⟨"pair"⟩ 1

/-- The detector of a session in a state of the machine. -/
def detector (window : Duration) (state : State) : Resident Empty :=
  .pair (state.pair (.onTopic tickTopic) window pairOutlet)

def pairCell (window : Duration) (state : State) (queue : List Event) (d : Diary) :
    Cell (Resident Empty) where
  mesh := ⟨0⟩
  id := ⟨"pair"⟩
  generation := 1
  resident := detector window state
  phase := .running
  queue
  accepted := d.accepted
  calls := d.calls

def observerCell (queue : List Event) (d : Diary) : Cell (Resident Empty) where
  mesh := ⟨0⟩
  id := ⟨"observer"⟩
  generation := 2
  resident := .sceneKeeper {}
  phase := .running
  queue
  accepted := d.accepted
  calls := d.calls

/-- The mesh of a session with the cells that are registered so far. -/
def pairMesh (config : Config) (registry : Dict CellId CellKey)
    (routes : Dict CellId (List CellId)) : Mesh where
  name := config.id
  requestTimeout := config.requestTimeout
  registry
  routes
  nextGeneration := registry.length + 1
  loops := (List.range registry.length).map Handle.mk

def routedMesh (config : Config) : Mesh :=
  pairMesh config [(⟨"observer"⟩, ⟨1⟩), (⟨"pair"⟩, ⟨0⟩)] [(⟨"pair"⟩, [⟨"observer"⟩])]

namespace Stage

def world (s : Stage) (config : Config) (window : Duration) : Stock where
  clock := s.clock
  serials := ⟨s.made, 0, s.made⟩
  flags := s.flags
  scenes := ⟨#[s.board]⟩
  reminders := s.reminders
  tasks := s.tasks
  cells := ⟨#[pairCell window s.state s.ticks s.pairDiary,
    observerCell s.reports s.observerDiary]⟩
  meshes := ⟨#[routedMesh config]⟩
  ready := s.ready

def enlist (s : Stage) (j : Job) : Stage :=
  { s with ready := if j ∈ s.ready then s.ready else s.ready ++ [j] }

/-- An event for the pair cell. -/
def pairAccepts (s : Stage) (e : Event) : Stage :=
  { s with ticks := s.ticks ++ [e], pairDiary := s.pairDiary.accept e }.enlist (.cell ⟨0⟩)

/-- An event for the observer. -/
def observerAccepts (s : Stage) (e : Event) : Stage :=
  { s with
    reports := s.reports ++ [e]
    observerDiary := s.observerDiary.accept e }.enlist (.cell ⟨1⟩)

/-- A new task. -/
def spawn (s : Stage) (errand : Errand) : Stage :=
  { s with tasks := s.tasks.add { errand } }.enlist (.task s.tasks.next)

/-- A task goes on. -/
def come (s : Stage) (t : TaskId) (progress : Progress) : Stage :=
  { s with tasks := s.tasks.modify t fun task => { task with progress } }

/-- A task ends. -/
def close (s : Stage) (t : TaskId) (last : Progress) : Stage :=
  { s with tasks := s.tasks.modify t fun task => { task with progress := last, seen := .empty } }

/-- A reminder is called off, and its task given up. -/
def callOff (s : Stage) (r : ReminderId) (t : TaskId) : Stage :=
  { s with
    reminders := s.reminders.modify r fun _ => { cancelled := true, task := none }
    tasks := s.tasks.modify t fun task => { task with doomed := true } }.enlist (.task t)

/-- A report is written on the scene. -/
def write (s : Stage) (e : Event) : Stage :=
  { s with
    flags := (s.flags.add {}).set (s.board.flag e.topic s.flags.next).slot e.payload
    board := s.board.store e.topic e.payload s.flags.next }

/-- Somebody takes hold of the flag of a key. -/
def hold (s : Stage) (key : String) : Stage :=
  { s with flags := s.flags.add {}, board := s.board.hold key s.flags.next }

end Stage

section Stages

variable {config : Config} {window : Duration} {s : Stage} {t : TaskId} {task : Task} {e : Event}

theorem enlist_stage (s : Stage) (j : Job) :
    (s.world config window).enlist j = (s.enlist j).world config window := by
  unfold World.enlist Stage.enlist
  split
  · rename_i ready
    rw [if_pos (show j ∈ s.ready from ready)]
  · rename_i absent
    rw [if_neg (show j ∉ s.ready from absent)]
    rfl

theorem spawn_waitFlag (s : Stage) (key : String) (ctx : Context) :
    (s.world config window).spawn (.waitFlag ⟨0⟩ key ctx) =
      (s.tasks.next, (s.spawn (.waitFlag ⟨0⟩ key ctx)).world config window) := by
  rw [Stage.spawn, ← enlist_stage]
  rfl

theorem come_close (s : Stage) (t : TaskId) (progress last : Progress) :
    (s.come t progress).close t last = s.close t last := by
  rw [Stage.close, Stage.come, Table.modify_modify]
  rfl

theorem get?_come (known : s.tasks.get? t = some task) (progress : Progress) :
    (s.come t progress).tasks.get? t = some { task with progress } := by
  rw [Stage.come, Table.get?_modify, if_pos rfl, known]
  rfl

theorem endTask_remind {r : ReminderId} (known : s.tasks.get? t = some task)
    (errand : task.errand = .remind ⟨0⟩ r window e) (last : Progress) :
    (s.world config window).endTask t last = (s.close t last).world config window := by
  have found : (s.world config window).tasks.get? t = some task := known
  simp only [endTask, found, letGo, errand]
  rfl

/-- Who waited for a key lets go of its flag at the end. -/
theorem endTask_waitFlag {key : String} {ctx : Context} (known : s.tasks.get? t = some task)
    (errand : task.errand = .waitFlag ⟨0⟩ key ctx) (begun : task.isBegun = true)
    (last : Progress) : (s.world config window).endTask t last =
      Stage.world { s.close t last with board := s.board.unhold key } config window := by
  have found : (s.world config window).tasks.get? t = some task := known
  simp only [endTask, found, letGo, errand, begun, if_true]
  rfl

/-- A reminder that is called off while its task goes on. -/
theorem cancelReminder_stage (config : Config) (window : Duration) {r : ReminderId}
    (known : s.reminders.get? r = some { task := some t }) (booked : s.tasks.get? t = some task)
    (live : task.isOver = false) :
    (s.world config window).cancelReminder r = (s.callOff r t).world config window := by
  have found : (s.world config window).reminders.get? r = some { task := some t } := known
  have going : (s.tasks.get? t).any (!·.isOver) = true := by
    rw [booked, Option.any_some, live]
    rfl
  rw [World.cancelReminder, found, Stage.callOff, ← enlist_stage]
  exact if_pos going

/-- A check that comes back, unless it was called off. -/
theorem sendBack_stage {k : Booking} {reminder : Reminder} (cell : k.cell = ⟨0⟩)
    (known : s.reminders.get? k.reminder = some reminder) (valid : reminder.cancelled = false) :
    (s.world config window).sendBack k = (s.pairAccepts k.event).world config window := by
  have live : (s.world config window).isCancelled k.reminder = false := by
    show (s.reminders.get? k.reminder).any (·.cancelled) = false
    rw [known, Option.any_some, valid]
  rw [sendBack, live, if_neg Bool.false_ne_true, cell, Stage.pairAccepts, ← enlist_stage]
  rfl

end Stages

/-! ### Notices -/

/-- The event of a notice, with its number. -/
def announced (notice : Notice) (made : Nat) (now : Wall) : Event :=
  ⟨.ofSerial made, notice.topic, .mk made notice.entries, notice.scene, now⟩

/-- What a tick says. -/
def tickNotice (n : Int64) : Notice := ⟨tickTopic, [(Key.default, .int n)], some ⟨0⟩⟩

/-- A tick is sent to the pair cell. -/
def Stage.tick (s : Stage) (n : Int64) : Stage :=
  { s with made := s.made + 1 }.pairAccepts (announced (tickNotice n) s.made s.clock.wall)

/-- The pair cell sends a report to the observer. -/
def Stage.announce (s : Stage) (notice : Notice) : Stage :=
  { s with made := s.made + 1 }.observerAccepts (announced notice s.made s.clock.wall)

/-! ### Turns -/

section Turns

variable {config : Config} {window : Duration} {s s' : Stage} {e : Event} {queue : List Event}
  {rest : List Job} {state next : State} {hit : Hit} {m : Nat} {n : Int64} {at_ : Wall}
  {t : TaskId} {task : Task}

theorem send_tick (s : Stage) (n : Int64) :
    send (s.world config window) ⟨0⟩ ⟨"pair"⟩ tickTopic (.int n) (some ⟨0⟩) =
      .ok ((s.tick n).world config window) := by
  rw [Stage.tick, Stage.pairAccepts, ← enlist_stage]
  rfl

/-! #### The pair cell -/

theorem turn_pair_idle (ready : s.ready = .cell ⟨0⟩ :: rest) (ticks : s.ticks = []) :
    (s.world config window).turn (.cell ⟨0⟩) =
      Stage.world { s with ready := rest } config window := by
  obtain ⟨⟩ := s
  cases ready
  cases ticks
  rfl

/-- A turn of the pair cell, by what becomes of its call. -/
theorem turn_pair (ready : s.ready = .cell ⟨0⟩ :: rest) (known : s.state = state)
    (ticks : s.ticks = e :: queue)
    (performed : World.perform (Behavior.process (detector window state) e)
      (Stage.world { s with ticks := queue } config window) =
        (detector window next, .done, s'.world config window)) :
    (s.world config window).turn (.cell ⟨0⟩) = Stage.world
      { s' with state := next, pairDiary := s'.pairDiary.after (.process e .done) }
        config window := by
  have handled : (s.world config window).handle ⟨0⟩ (detector window state) e =
      (s'.world config window).modifyCell ⟨0⟩ (·.after (.process e .done)
        (detector window next)) := by
    obtain ⟨⟩ := s
    cases ticks
    exact handle_of_done performed
  obtain ⟨⟩ := s
  cases ready
  cases known
  cases ticks
  exact handled

/-- A first tick opens a hit and schedules its check. -/
theorem turn_first (ready : s.ready = .cell ⟨0⟩ :: rest) (idle : s.state = .idle)
    (ticks : s.ticks = announced (tickNotice n) m at_ :: queue) :
    (s.world config window).turn (.cell ⟨0⟩) = Stage.world
      { s.spawn (.remind ⟨0⟩ s.reminders.next window
          (announced (checkNotice s.clock.wall) s.made s.clock.wall)) with
        made := s.made + 1
        state := .pending ⟨s.clock.wall, s.clock.mono, some (.int n), some ⟨0⟩, s.reminders.next⟩
        ticks := queue
        pairDiary := s.pairDiary.after (.process (announced (tickNotice n) m at_) .done)
        reminders := (s.reminders.add {}).modify s.reminders.next fun reminder =>
          { reminder with task := some s.tasks.next } } config window := by
  set check := announced (checkNotice s.clock.wall) s.made s.clock.wall with check_def
  set drawn : Stage := { s with made := s.made + 1, ticks := queue } with drawn_def
  set booked : Stage := { drawn.spawn (.remind ⟨0⟩ s.reminders.next window check) with
    reminders := (s.reminders.add {}).modify s.reminders.next fun reminder =>
      { reminder with task := some s.tasks.next } } with booked_def
  have spawned : ((drawn.world config window).addReminder.2.spawn
        (.remind ⟨0⟩ s.reminders.next window check)).2 =
      Stage.world { drawn.spawn (.remind ⟨0⟩ s.reminders.next window check) with
        reminders := s.reminders.add {} } config window :=
    enlist_stage { drawn with
      reminders := s.reminders.add {}
      tasks := s.tasks.add { errand := .remind ⟨0⟩ s.reminders.next window check } } _
  have scheduled : ((drawn.world config window).emitAfter pairOutlet window check).2 =
      booked.world config window := by
    rw [pairOutlet, emitAfter_cell]
    exact congrArg (fun w : Stock => { w with
      reminders := (s.reminders.add {}).modify s.reminders.next fun reminder =>
        { reminder with task := some s.tasks.next } }) spawned
  have performed : World.perform (Behavior.process (detector window .idle)
      (announced (tickNotice n) m at_)) (Stage.world { s with ticks := queue } config window) =
        (detector window (.pending ⟨s.clock.wall, s.clock.mono, some (.int n), some ⟨0⟩,
          s.reminders.next⟩), .done, booked.world config window) := by
    rw [← scheduled]
    rfl
  exact turn_pair ready idle ticks performed

/-- The detector of a session with an open hit, once it forgot the check. -/
def unchecked (window : Duration) (hit : Hit) : Pair :=
  { (State.pending hit).pair (.onTopic tickTopic) window pairOutlet with reminder := none }

section Reports

variable (config : Config) (window : Duration) (hit : Hit) (s : Stage)

theorem perform_report (topic : String) (values : List (String × Value)) :
    World.perform (((unchecked window hit).report topic values).map .pair) (s.world config window) =
      (detector window .idle, .done, Stage.world (s.announce ⟨topic,
        Dict.insertAll [] ((Key.pairFirstTime, .time hit.time) ::
          (hit.data.map fun d => (Key.pairFirstData, d)).toList ++ values), hit.scene⟩)
            config window) := by
  rw [Stage.announce, Stage.observerAccepts, ← enlist_stage]
  rfl

theorem perform_reportTimeout :
    World.perform ((unchecked window hit).reportTimeout.map .pair) (s.world config window) =
      (detector window .idle, .done,
        (s.announce (hit.timeoutNotice s.clock.wall)).world config window) := by
  have reported := perform_report config window hit s Topic.pairTimeout
    [(Key.pairTimeout, .time s.clock.wall)]
  rw [insertAll_timeout] at reported
  exact reported

theorem perform_reportPair (data : Option Value) :
    World.perform (((unchecked window hit).reportPair data).map .pair) (s.world config window) =
      (detector window .idle, .done,
        (s.announce (hit.pairNotice s.clock.wall data)).world config window) := by
  have reported := perform_report config window hit s Topic.pair
    ((Key.pairSecondTime, .time s.clock.wall) ::
      (data.map fun d => (Key.pairSecondData, d)).toList)
  rw [insertAll_pair] at reported
  exact reported

end Reports

/-- The check of the open hit reports it. -/
theorem turn_check (ready : s.ready = .cell ⟨0⟩ :: rest) (pending : s.state = .pending hit)
    (ticks : s.ticks = announced (checkNotice hit.time) m at_ :: queue) :
    (s.world config window).turn (.cell ⟨0⟩) = Stage.world
      { s.announce (hit.timeoutNotice s.clock.wall) with
        state := .idle
        ticks := queue
        pairDiary := s.pairDiary.after
          (.process (announced (checkNotice hit.time) m at_) .done) } config window := by
  have names : (announced (checkNotice hit.time) m at_).payload.getTime? Key.pairFirstTime =
      some hit.time := rfl
  have process : Behavior.process (detector window (.pending hit))
      (announced (checkNotice hit.time) m at_) =
        (unchecked window hit).reportTimeout.map .pair := by
    show Script.map Resident.pair (if _ then (unchecked window hit).reportTimeout else _) = _
    rw [if_pos names]
  have reported := perform_reportTimeout config window hit { s with ticks := queue }
  rw [← process] at reported
  exact turn_pair ready pending ticks reported

/-- A second tick in time calls the check off and reports a pair. -/
theorem turn_second (ready : s.ready = .cell ⟨0⟩ :: rest) (pending : s.state = .pending hit)
    (ticks : s.ticks = announced (tickNotice n) m at_ :: queue)
    (inTime : s.clock.mono.since hit.since ≤ window.nanos)
    (known : s.reminders.get? hit.reminder = some { task := some t })
    (booked : s.tasks.get? t = some task) (live : task.isOver = false) :
    (s.world config window).turn (.cell ⟨0⟩) = Stage.world
      { (s.callOff hit.reminder t).announce (hit.pairNotice s.clock.wall (some (.int n))) with
        state := .idle
        ticks := queue
        pairDiary := s.pairDiary.after (.process (announced (tickNotice n) m at_) .done) }
          config window := by
  have process (w : Stock) : World.perform (Behavior.process (detector window (.pending hit))
      (announced (tickNotice n) m at_)) w =
        World.perform (Script.map .pair
          (if (w.cancelReminder hit.reminder).clock.mono.since hit.since > window.nanos then
            (unchecked window hit).reportTimeout
          else (unchecked window hit).reportPair (some (.int n))))
          (w.cancelReminder hit.reminder) := rfl
  have off := cancelReminder_stage config window (s := { s with ticks := queue }) known booked live
  have reported := perform_reportPair config window hit
    (Stage.callOff { s with ticks := queue } hit.reminder t) (some (.int n))
  refine turn_pair ready pending ticks (.trans ?_ reported)
  rw [process, off]
  exact congrArg (fun p => World.perform (Script.map Resident.pair p) _)
    (if_neg (Nat.not_lt.mpr inTime))

/-! #### The observer -/

theorem turn_observer_idle (ready : s.ready = .cell ⟨1⟩ :: rest) (reports : s.reports = []) :
    (s.world config window).turn (.cell ⟨1⟩) =
      Stage.world { s with ready := rest } config window := by
  obtain ⟨⟩ := s
  cases ready
  cases reports
  rfl

/-- A turn of the observer, by what becomes of its call. -/
theorem turn_observer {outcome : Outcome} (ready : s.ready = .cell ⟨1⟩ :: rest)
    (reports : s.reports = e :: queue)
    (performed : World.perform (Behavior.process (Resident.sceneKeeper (γ := Empty) {}) e)
      (Stage.world { s with reports := queue } config window) =
        (.sceneKeeper {}, outcome, s'.world config window))
    (calm : ∀ p, outcome ≠ .panicked p) :
    (s.world config window).turn (.cell ⟨1⟩) = Stage.world
      { s' with observerDiary := s'.observerDiary.after (.process e outcome) } config window := by
  have handled : (s.world config window).handle ⟨1⟩ (.sceneKeeper {}) e =
      (s'.world config window).modifyCell ⟨1⟩ (·.after (.process e outcome) (.sceneKeeper {})) := by
    obtain ⟨⟩ := s
    cases reports
    exact handle_of_calm performed calm
  obtain ⟨⟩ := s
  cases ready
  cases reports
  exact handled

/-- An event of the scene is stored under its topic. -/
theorem perform_sceneKeeper {r : Except EventError Unit} (scene : e.scene = some ⟨0⟩)
    (stored : (s.world config window).store ⟨0⟩ e.topic e.payload = (r, s'.world config window)) :
    World.perform (Behavior.process (Resident.sceneKeeper (γ := Empty) {}) e)
        (s.world config window) =
      (.sceneKeeper {}, .ofResult (r.mapError .event), s'.world config window) := by
  show World.perform (Script.map Resident.sceneKeeper (SceneKeeper.process {} e)) _ = _
  simp only [SceneKeeper.process, scene, Script.map, World.perform, stored]
  cases r <;> rfl

/-- The observer writes the first report on a topic, and wakes who waits for it. -/
theorem turn_report (wakened : List Job) (ready : s.ready = .cell ⟨1⟩ :: rest)
    (reports : s.reports = e :: queue) (scene : e.scene = some ⟨0⟩)
    (free : s.board.fetch? e.topic = none)
    (woken : wake (Stage.world { s.write e with reports := queue } config window) =
      Stage.world { s.write e with reports := queue, ready := wakened } config window) :
    (s.world config window).turn (.cell ⟨1⟩) = Stage.world { s.write e with
      reports := queue
      observerDiary := s.observerDiary.after (.process e .done)
      ready := wakened } config window := by
  have unset : ¬ (s.board.fetch? e.topic).isSome = true := by
    rw [free]
    nofun
  have stored : (Stage.world { s with reports := queue } config window).store ⟨0⟩ e.topic e.payload =
      (.ok (), Stage.world { s.write e with reports := queue, ready := wakened } config window) := by
    rw [← woken]
    exact if_neg unset
  exact turn_observer ready reports (perform_sceneKeeper scene stored) nofun

/-- It fails to write a second one. -/
theorem turn_repeated (ready : s.ready = .cell ⟨1⟩ :: rest) (reports : s.reports = e :: queue)
    (scene : e.scene = some ⟨0⟩) (taken : (s.board.fetch? e.topic).isSome = true) :
    (s.world config window).turn (.cell ⟨1⟩) = Stage.world { s with
      reports := queue
      observerDiary := s.observerDiary.after
        (.process e (.failed (.event (.sceneKeyExists e.topic)))) } config window := by
  have refused : (Stage.world { s with reports := queue } config window).store ⟨0⟩ e.topic e.payload =
      (.error (.sceneKeyExists e.topic), Stage.world { s with reports := queue } config window) :=
    if_pos taken
  exact turn_observer ready reports (perform_sceneKeeper scene refused) nofun

/-! #### Tasks -/

theorem dismiss_stage {j : Job} (ready : s.ready = j :: rest) :
    (s.world config window).dismiss j = Stage.world { s with ready := rest } config window := by
  have erased : s.ready.erase j = rest := by rw [ready, List.erase_cons_head]
  rw [← erased]
  rfl

/-- The task of a check begins to sleep. -/
theorem turn_asleep {r : ReminderId} {until_ : Instant} (ready : s.ready = .task t :: rest)
    (booked : s.tasks.get? t = some { errand := .remind ⟨0⟩ r window e })
    (wakes : (s.world config window).wakeTime window = until_)
    (later : ¬ until_ ≤ s.clock.mono) : (s.world config window).turn (.task t) =
      Stage.world { s.come t (.sleeping until_) with ready := rest } config window := by
  have known : (s.world config window).tasks.get? t =
      some { errand := .remind ⟨0⟩ r window e } := booked
  have bell : (s.world config window).bell? window .fresh = some until_ := congrArg some wakes
  have dozes := stepTask_booked (k := ⟨⟨0⟩, r, window, e, t, .zero⟩) known rfl rfl bell
  rw [if_neg (show ¬ until_ ≤ (s.world config window).now from later)] at dozes
  refine dozes.trans ?_
  show ((s.world config window).dismiss (.task t)).setProgress t (.sleeping until_) = _
  rw [dismiss_stage ready]
  rfl

/-- The task of a check sends the check, once it is time. -/
theorem turn_rings {r : ReminderId} {reminder : Reminder} {until_ : Instant}
    (ready : s.ready = .task t :: rest) (booked : s.tasks.get? t = some task)
    (errand : task.errand = .remind ⟨0⟩ r window e) (kept : task.doomed = false)
    (bell : task.progress = .fresh ∧ (s.world config window).wakeTime window = until_ ∨
      task.progress = .sleeping until_)
    (due : until_ ≤ s.clock.mono) (known : s.reminders.get? r = some reminder)
    (valid : reminder.cancelled = false) : (s.world config window).turn (.task t) =
      Stage.world (Stage.pairAccepts { s.close t (.finished .reminded) with ready := rest } e)
        config window := by
  have at_ : (s.world config window).tasks.get? t = some task := booked
  have rings : (s.world config window).bell? window task.progress = some until_ := by
    rcases bell with ⟨fresh, wakes⟩ | sleeping
    · rw [fresh]
      exact congrArg some wakes
    · rw [sleeping]
      rfl
  have dozes : (s.world config window).doze t task until_ =
      Stage.world { s.come t (.sleeping until_) with ready := rest } config window := by
    rw [doze, dismiss_stage ready]
    rcases bell with ⟨fresh, -⟩ | sleeping
    · rw [Task.isBegun, fresh]
      rfl
    · have same : s.tasks.modify t (fun task => { task with progress := .sleeping until_ }) =
          s.tasks := by
        refine (Table.modify_congr booked (g := fun task => task) ?_).trans (Table.modify_id ..)
        rw [← sleeping]
      rw [Task.isBegun, sleeping, Stage.come, same]
      rfl
  have stepped := stepTask_booked (k := ⟨⟨0⟩, r, window, e, t, .zero⟩) at_ errand kept rings
  rw [if_pos (show until_ ≤ (s.world config window).now from due), dozes,
    sendBack_stage (k := ⟨⟨0⟩, r, window, e, t, .zero⟩)
      (s := { s.come t (.sleeping until_) with ready := rest }) rfl known valid] at stepped
  have asleep : (Stage.pairAccepts { s.come t (.sleeping until_) with ready := rest } e).tasks.get? t =
      some { task with progress := .sleeping until_ } := get?_come booked _
  have closes : (Stage.pairAccepts { s.come t (.sleeping until_) with ready := rest } e).close t
      (.finished .reminded) = Stage.pairAccepts
        { (s.come t (.sleeping until_)).close t (.finished .reminded) with ready := rest } e :=
    rfl
  rw [come_close] at closes
  rw [← closes]
  exact stepped.trans (endTask_remind asleep errand _)

/-- A task that was given up ends. -/
theorem turn_doomed {r : ReminderId} (ready : s.ready = .task t :: rest)
    (booked : s.tasks.get? t = some task) (errand : task.errand = .remind ⟨0⟩ r window e)
    (live : task.isOver = false) (doomed : task.doomed = true) :
    (s.world config window).turn (.task t) =
      Stage.world { s.close t .aborted with ready := rest } config window := by
  have known : (s.world config window).tasks.get? t = some task := booked
  refine (stepTask_doomed known live doomed).trans ?_
  rw [dismiss_stage ready]
  exact endTask_remind (s := { s with ready := rest }) booked errand .aborted

/-- A wait for a key begins with a hold on its flag. -/
theorem turn_waitFlag {key : String} {ctx : Context} (ready : s.ready = .task t :: rest)
    (spawned : s.tasks.get? t = some { errand := .waitFlag ⟨0⟩ key ctx }) :
    (s.world config window).turn (.task t) =
      (Stage.world { s.hold key with ready := rest } config window).beginWait t
        (.waitFlag ⟨0⟩ key ctx) (.flag (s.board.flag key s.flags.next).slot) ctx := by
  have known : (s.world config window).tasks.get? t =
      some { errand := .waitFlag ⟨0⟩ key ctx } := spawned
  have board : (s.world config window).scenes.get? ⟨0⟩ = some s.board := rfl
  refine (stepTask_waitFlag known rfl rfl rfl board).trans ?_
  rw [dismiss_stage ready]
  rfl

/-- A wait for a key that is not written goes on. -/
theorem turn_waits {key : String} {ctx : Context} (ready : s.ready = .task t :: rest)
    (spawned : s.tasks.get? t = some { errand := .waitFlag ⟨0⟩ key ctx })
    (going : ctx.err? .empty s.clock.mono = none)
    (unset : s.flags.reply? (s.board.flag key s.flags.next).slot = none) :
    (s.world config window).turn (.task t) = Stage.world
      { (s.hold key).come t (.waiting (.flag (s.board.flag key s.flags.next).slot) ctx) with
        ready := rest } config window := by
  have still : (Stage.world { s.hold key with ready := rest } config window).slotReply?
      (.flag (s.board.flag key s.flags.next).slot) = none :=
    (Table.reply?_add s.flags _).trans unset
  have ongoing : (Stage.world { s.hold key with ready := rest } config window).err? ctx = none :=
    going
  rw [turn_waitFlag ready spawned, beginWait_of_open still ongoing]
  rfl

/-- A wait for a key that is written ends at once. -/
theorem turn_finds {key : String} {ctx : Context} {p : Payload} (ready : s.ready = .task t :: rest)
    (spawned : s.tasks.get? t = some { errand := .waitFlag ⟨0⟩ key ctx })
    (going : ctx.err? .empty s.clock.mono = none)
    (set : s.flags.reply? (s.board.flag key s.flags.next).slot = some p) :
    (s.world config window).turn (.task t) = Stage.world
      { (s.hold key).close t (.finished (.reply (.ok p))) with
        board := (s.hold key).board.unhold key
        ready := rest } config window := by
  have there : (Stage.world { s.hold key with ready := rest } config window).slotReply?
      (.flag (s.board.flag key s.flags.next).slot) = some p :=
    (Table.reply?_add s.flags _).trans set
  have ongoing : (Stage.world { s.hold key with ready := rest } config window).err? ctx = none :=
    going
  have waiting := get?_come (s := { s.hold key with ready := rest }) spawned
    (.waiting (.flag (s.board.flag key s.flags.next).slot) ctx)
  rw [turn_waitFlag ready spawned, beginWait_of_reply ongoing there, ← come_close]
  exact endTask_waitFlag waiting rfl rfl _

/-- A wait for a key ends once it is written. -/
theorem turn_answered {key : String} {f : FlagId} {ctx : Context} {p : Payload}
    (ready : s.ready = .task t :: rest)
    (waiting : s.tasks.get? t =
      some { errand := .waitFlag ⟨0⟩ key ctx, progress := .waiting (.flag f) ctx })
    (set : s.flags.reply? f = some p) : (s.world config window).turn (.task t) = Stage.world
      { s.close t (.finished (.reply (.ok p))) with
        board := s.board.unhold key
        ready := rest } config window := by
  have known : (s.world config window).tasks.get? t =
      some { errand := .waitFlag ⟨0⟩ key ctx, progress := .waiting (.flag f) ctx } := waiting
  have there : (Stage.world { s with ready := rest } config window).slotReply? (.flag f) = some p :=
    set
  refine (stepTask_begun known rfl rfl rfl).trans ?_
  rw [dismiss_stage ready]
  refine (resumeWait_of_reply there ..).trans ?_
  exact endTask_waitFlag (s := { s with ready := rest }) waiting rfl rfl _

end Turns

end EventMesh.Cli
