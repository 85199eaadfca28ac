import EventMesh.Mesh.Perform

/-!
Turns: what a cell or a task does when it is its turn, and how time goes by. A cell in its turn
handles one event after the other and stays at the head of the ready jobs until its queue is empty;
a task goes on until it has to wait. A world settles by giving turns to the oldest ready job; `turn`
gives one to any job, for statements about every order.
-/

namespace EventMesh.World

open Time

variable {β : Type} [Behavior β]

/-! ### Cells -/

/-- Ends the loop of an incarnation: nothing more is handled, the name is given back and the last
call is made. -/
def finish (w : World β) (key : CellKey) (resident : β) : World β :=
  let w := w.modifyCell key fun c => { c with phase := .ended, queue := [] }
  let w := w.deregister key
  let (resident, outcome, w) := perform (Behavior.terminate resident) w
  wake (w.modifyCell key (·.after (.terminate outcome) resident))

/-- Tells a behavior of its panic. If it fails to recover the loop ends; a panic in the recovery
breaks the loop off on the spot. -/
def rescue (w : World β) (key : CellKey) (resident : β) (fault : BehaviorError) : World β :=
  let (resident, outcome, w) := perform (Behavior.recover resident fault) w
  let w := w.modifyCell key (·.after (.recover fault outcome) resident)
  match outcome with
  | .done => w
  | .failed _ => w.finish key resident
  | .panicked _ => wake (w.modifyCell key fun c => { c with phase := .crashed, queue := [] })

/-- Hands the oldest event of the queue to the behavior. A failure changes nothing. -/
def handle (w : World β) (key : CellKey) (resident : β) (e : Event) : World β :=
  let w := w.modifyCell key fun c => { c with queue := c.queue.tail }
  let (resident, outcome, w) := perform (Behavior.process resident e) w
  let w := w.modifyCell key (·.after (.process e outcome) resident)
  match outcome with
  | .done | .failed _ => w
  | .panicked p => w.rescue key resident (.panicked p.text)

/-- One step of an incarnation in its turn. -/
def stepCell (w : World β) (key : CellKey) : World β :=
  match w.cells.get? key with
  | none => w.dismiss (.cell key)
  | some c =>
    match c.phase, c.queue with
    | .running, e :: _ | .draining, e :: _ => w.handle key c.resident e
    | .draining, [] => w.finish key c.resident
    | _, _ => w.dismiss (.cell key)

/-! ### Tasks -/

omit [Behavior β]

def setProgress (w : World β) (t : TaskId) (progress : Progress) : World β :=
  { w with tasks := w.tasks.modify t fun task => { task with progress } }

/-- Lets go of what a task held: the flag it waited for, or its mesh. -/
def letGo (w : World β) (task : Task) : World β :=
  match task.errand with
  | .waitFlag scene key _ =>
    if task.isBegun then { w with scenes := w.scenes.modify scene (·.unhold key) } else w
  | .request mesh .. | .tally mesh .. | .shutdown mesh => w.release mesh
  | .wait .. | .watch _ | .sleep _ | .remind .. => w

/-- Ends a task and keeps the waiters as they are now. -/
def endTask (w : World β) (t : TaskId) (last : Progress) : World β :=
  match w.tasks.get? t with
  | none => w
  | some task =>
    let seen := w.waiters
    { w with tasks := w.tasks.modify t fun task => { task with progress := last, seen } }.letGo task

/-- Ends a task with its report. -/
def conclude (w : World β) (t : TaskId) (report : Report) : World β :=
  w.endTask t (.finished report)

/-- A wait goes on, or ends with the reply or with the end of its context. -/
def resumeWait (w : World β) (t : TaskId) (errand : Errand) (slot : Slot) (ctx : Context) :
    World β :=
  match w.waitResult? slot ctx with
  | none => w
  | some r => w.conclude t (errand.reportWait r)

/-- A wait begins; a context that has ended already ends it, even if there is a reply. -/
def beginWait (w : World β) (t : TaskId) (errand : Errand) (slot : Slot) (ctx : Context) :
    World β :=
  let w := w.setProgress t (.waiting slot ctx)
  match w.err? ctx with
  | some err => w.conclude t (errand.reportWait (.error err))
  | none => w.resumeWait t errand slot ctx

/-- A request begins: an event with a new waiter goes to a cell. -/
def beginRequest (w : World β) (t : TaskId) (errand : Errand) (mesh : MeshId) (target : CellId)
    (topic : String) (values : Source) (ctx : Context) : World β :=
  let (waiter, w) := w.addWaiter
  let (e, w) := w.make do
    let p ← Serials.applySource (← Serials.makePayload values)
      (.pairs [(Key.waiter, .waiter waiter)])
    Event.make topic (.payload p) none w.clock.wall
  match w.deliver mesh target e with
  | (.error err, w) => w.conclude t (errand.reportResponse (.error err))
  | (.ok (), w) => w.beginWait t errand (.waiter waiter) ctx

/-- When a sleep that starts now ends. -/
def wakeTime (w : World β) (span : Duration) : Instant :=
  (w.now.add? span).getD w.now.farFuture

/-- A task that has begun goes on as far as it can. -/
def resume (w : World β) (t : TaskId) (task : Task) : World β :=
  match task.progress with
  | .fresh | .finished _ | .aborted => w
  | .waiting slot ctx => w.resumeWait t task.errand slot ctx
  | .watching ctx =>
    match w.err? ctx with
    | none => w
    | some err => w.conclude t (.contextEnded err)
  | .sleeping until_ =>
    if until_ ≤ w.now then
      match task.errand with
      | .remind cell reminder _ e =>
        (if w.isCancelled reminder then w else w.deliverTo cell e).conclude t .reminded
      | _ => w.conclude t .slept
    else w
  | .joining loops => if loops.all w.isOver then w.conclude t .shutDown else w

/-- Notes what a task waits for and goes on at once if that has come already. -/
def continueAs (w : World β) (t : TaskId) (task : Task) (progress : Progress) : World β :=
  (w.setProgress t progress).resume t { task with progress }

/-- The first step of a task. -/
def begin (w : World β) (t : TaskId) (task : Task) : World β :=
  match task.errand with
  | .wait waiter ctx => w.beginWait t task.errand (.waiter waiter) ctx
  | .waitFlag scene key ctx =>
    match w.scenes.get? scene with
    | none => w.endTask t .aborted
    | some board =>
      let (fresh, w) := w.addFlag
      let w := { w with scenes := w.scenes.modify scene (·.hold key fresh) }
      w.beginWait t task.errand (.flag (board.flag key fresh).slot) ctx
  | .request mesh target topic values ctx =>
    w.beginRequest t task.errand mesh target topic values ctx
  | .tally mesh target ctx timeout =>
    w.beginRequest t task.errand mesh target Topic.counterResults .empty
      (ctx.withTimeout w.now timeout)
  | .watch ctx => w.continueAs t task (.watching ctx)
  | .sleep span | .remind _ _ span _ => w.continueAs t task (.sleeping (w.wakeTime span))
  | .shutdown mesh =>
    let (loops, w) := w.beginShutdown mesh
    w.continueAs t task (.joining loops)

/-- A task in its turn. -/
def stepTask (w : World β) (t : TaskId) : World β :=
  let w := w.dismiss (.task t)
  match w.tasks.get? t with
  | none => w
  | some task =>
    if task.isOver then w
    else if task.doomed then w.endTask t .aborted
    else if task.isBegun then w.resume t task
    else w.begin t task

/-! ### Settling and the passing of time -/

/-- One step of a ready job. -/
def turn (w : World β) : Job → World β
  | .cell key => w.stepCell key
  | .task t => w.stepTask t

/-- Gives turns to the oldest ready job, so many steps at most. -/
def settleWithin : Nat → World β → World β
  | 0, w => w
  | n + 1, w =>
    match w.ready with
    | [] => w
    | j :: _ => settleWithin n (w.turn j)

/-- More steps than any mesh takes that comes to rest, beyond one for each event in a queue. -/
def patience : Nat := 1000000000

/-- How many events wait in queues. -/
def backlog (w : World β) : Nat :=
  w.cells.rows.toList.foldr (fun c waiting => c.queue.length + waiting) 0

/-- Gives turns until nothing is ready. -/
def settle (w : World β) : World β := settleWithin (patience + w.backlog) w

def nanosPerMilli : Nat := 1000000

/-- Moves both clocks on by whole milliseconds. -/
def skip (w : World β) (ms : Nat) : World β :=
  { w with clock := w.clock.advance (ms * nanosPerMilli) }

/-- After how many milliseconds, at least one, the first of the waiting tasks is due. -/
def nextTick? (w : World β) : Option Nat :=
  (w.tasks.rows.toList.filterMap Task.due?).foldl (fun least? due =>
    let ticks := max 1 ((due.since w.now + (nanosPerMilli - 1)) / nanosPerMilli)
    some (least?.elim ticks (min ticks))) none

/-- Moves the clocks on, then lets all that is due have its turn. -/
def pass (w : World β) (ms : Nat) : World β := settle (wake (w.skip ms))

/-- Lets milliseconds go by, from one instant at which something is due to the next, with so many
stops at most. -/
def elapse : Nat → Nat → World β → World β
  | 0, ms, w => w.skip ms
  | stops + 1, ms, w =>
    match w.nextTick? with
    | none => w.skip ms
    | some ticks => if ticks ≤ ms then elapse stops (ms - ticks) (w.pass ticks) else w.skip ms

/-- Settles, then lets milliseconds go by. -/
def advance (w : World β) (ms : Nat) : World β := elapse ms ms (settle w)

/-- What a task brought back, if it is finished. -/
def report? (w : World β) (t : TaskId) : Option Report :=
  (w.progress? t).bind fun
    | .finished report => some report
    | _ => none

/-- Lets time go by until one of the tasks has its report, with so many stops at most. -/
def await (ts : List TaskId) : Nat → World β → World β
  | 0, w => settle w
  | stops + 1, w =>
    let w := settle w
    if ts.any fun t => (w.report? t).isSome then w
    else match w.nextTick? with
      | none => w
      | some ticks => await ts stops (wake (w.skip ticks))

end EventMesh.World
