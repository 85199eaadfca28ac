import EventMesh.Mesh.Perform

/-!
Trials: a behavior on a bench is called by hand. What it emits and schedules is recorded and goes
nowhere; a scheduled event comes back only when the trial fires it. Firing takes the oldest
scheduled event that is not called off; a stale one can be delivered all the same, and stays
scheduled.
-/

namespace EventMesh.World

open Time

variable {β : Type}

/-- Puts a behavior on a new bench. -/
def addBench (w : World β) (id : CellId) (resident : β) : BenchId × World β :=
  (w.benches.next, { w with benches := w.benches.add { id, resident } })

/-- Changes a bench. -/
def modifyBench (w : World β) (bench : BenchId) (f : Bench β → Bench β) : World β :=
  { w with benches := w.benches.modify bench f }

/-- The scheduled events of a bench that are not called off. -/
def pendingOf (w : World β) (b : Bench β) : List Scheduled :=
  b.scheduled.filter (!w.isCancelled ·.reminder)

/-- Makes a call of the behavior on a bench. -/
def call (w : World β) (bench : BenchId) (script : Bench β → Script β) : Outcome × World β :=
  match w.benches.get? bench with
  | none => (.done, w)
  | some b =>
    let (resident, outcome, w) := perform (script b) w
    (outcome, w.modifyBench bench fun b => { b with resident })

variable [Behavior β]

/-- The first call. -/
def callInit (w : World β) (bench : BenchId) : Outcome × World β :=
  w.call bench fun b => Behavior.init b.resident (.bench bench b.id)

/-- Tells the behavior of a fault. -/
def callRecover (w : World β) (bench : BenchId) (fault : BehaviorError) : Outcome × World β :=
  w.call bench fun b => Behavior.recover b.resident fault

/-- The last call. -/
def callTerminate (w : World β) (bench : BenchId) : Outcome × World β :=
  w.call bench fun b => Behavior.terminate b.resident

/-- What a call returned, unless it panicked. -/
def returned? : Outcome → Option (Except BehaviorError Unit)
  | .done => some (.ok ())
  | .failed err => some (.error err)
  | .panicked _ => none

/-- Delivers an event and records what the behavior returned. -/
def send (w : World β) (bench : BenchId) (e : Event) : Outcome × World β :=
  let (outcome, w) := w.call bench fun b => Behavior.process b.resident e
  (outcome, match returned? outcome with
    | none => w
    | some r => w.modifyBench bench fun b => { b with records := b.records ++ [(e.topic, r)] })

/-- Delivers the oldest scheduled event that is not called off; it is scheduled no more, whatever
the behavior returns. -/
def fireNext (w : World β) (bench : BenchId) : Option Outcome × World β :=
  match (w.benches.get? bench).bind fun b =>
      (b.scheduled.findIdx? (!w.isCancelled ·.reminder)).bind fun i =>
        (b.scheduled[i]?).map fun s => (i, s) with
  | none => (none, w)
  | some (i, s) =>
    let w := w.modifyBench bench fun b => { b with scheduled := b.scheduled.eraseIdx i }
    let (outcome, w) := w.send bench s.event
    (some outcome, w)

/-- Delivers a scheduled event, called off or not, which stays scheduled. -/
def fireStale (w : World β) (bench : BenchId) (n : Nat) : Option Outcome × World β :=
  match (w.benches.get? bench).bind (·.scheduled[n]?) with
  | none => (none, w)
  | some s =>
    let (outcome, w) := w.send bench s.event
    (some outcome, w)

/-- Forgets the records, but not what is scheduled. -/
def clearRecords (w : World β) (bench : BenchId) : World β :=
  w.modifyBench bench fun b => { b with emitted := [], sent := [], records := [] }

/-- The emitted events, which are forgotten. -/
def takeEmitted (w : World β) (bench : BenchId) : List Event × World β :=
  (((w.benches.get? bench).map (·.emitted)).getD [],
    w.modifyBench bench fun b => { b with emitted := [] })

end EventMesh.World
