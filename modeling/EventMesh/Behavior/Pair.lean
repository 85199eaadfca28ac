import EventMesh.Behavior.Script

/-!
Pairs: two matching events within a window of time are reported as a pair; a first one whose partner
is late or missing is reported as a timeout. While a first event is pending, a reminder checks on it
when the window ends; the check names the event by its time of day. The window is measured on the
running clock and all times reported are times of day.
-/

namespace EventMesh

open Time

/-- What a criterion says of an event; a matching event may have data that travel with the report.
-/
inductive Verdict where
  | miss
  | hit (data : Option Value)
  | panicked (p : Panic)

/-- Decides whether an event matches, given the data of the pending first event. -/
abbrev Criterion := Event → Option Value → Verdict

namespace Criterion

/-- Events of one topic match, with their default value. -/
def onTopic (topic : String) : Criterion := fun e _ =>
  if e.topic = topic then .hit e.payload.getDefault? else .miss

/-- Every event matches, with its default value. -/
def always : Criterion := fun e _ => .hit e.payload.getDefault?

/-- Every event matches, without data. -/
def bare : Criterion := fun _ _ => .hit none

/-- An integer matches, and after a first one only its successor. -/
def successor : Criterion := fun e first =>
  match e.payload.getInt? Key.default with
  | none => .miss
  | some v =>
    match first with
    | none => .hit (some (.int v))
    | some (.int u) => if u.toInt + 1 = v.toInt then .hit (some (.int v)) else .miss
    | some _ => .miss

/-- Any value matches, and after a first one only a value equal to it. -/
def repeated (same : Value → Value → Bool) : Criterion := fun e first =>
  match e.payload.getDefault? with
  | none => .miss
  | some v => if first.all (same · v) then .hit (some v) else .miss

end Criterion

/-- A detector of pairs. A first matching event sets the fields from `pending` on and its resolution
clears them. -/
structure Pair where
  criterion : Criterion
  window : Duration
  outlet : Option Outlet := none
  /-- The time of day of the first event that waits for its partner. -/
  pending : Option Wall := none
  /-- When that event came, on the running clock. -/
  since : Option Instant := none
  data : Option Value := none
  scene : Option SceneId := none
  /-- The reminder that brings its check. -/
  reminder : Option ReminderId := none

namespace Pair

/-- Nothing is pending any more. -/
def resolved (p : Pair) : Pair :=
  { p with pending := none, since := none, data := none, scene := none }

/-- Resolves the pending event and reports it on a topic, with its own time, data and scene and the
values given. -/
def report (p : Pair) (topic : String) (values : List (String × Value)) : Script Pair :=
  match p.pending with
  | none => .finish p .done
  | some time =>
    let own := (Key.pairFirstTime, .time time) ::
      (p.data.map fun d => (Key.pairFirstData, d)).toList
    match p.outlet with
    | none => .finish p.resolved (.failed (.executionFailed "pair behavior not initialised"))
    | some outlet =>
      .create topic (.pairs (own ++ values)) p.scene fun e =>
        .emit outlet e fun r => .finish p.resolved (.ofResult r)

/-- Reports that the partner of the pending event is late or missing. -/
def reportTimeout (p : Pair) : Script Pair :=
  .survey fun s => p.report Topic.pairTimeout [(Key.pairTimeout, .time s.clock.wall)]

/-- Reports a pair. -/
def reportPair (p : Pair) (data : Option Value) : Script Pair :=
  .survey fun s =>
    p.report Topic.pair ((Key.pairSecondTime, .time s.clock.wall) ::
      (data.map fun d => (Key.pairSecondData, d)).toList)

/-- A check resolves the pending event if it names that event's time; other checks are stale. -/
def check (p : Pair) (e : Event) : Script Pair :=
  match p.pending with
  | none => .finish p .done
  | some time =>
    if e.payload.getTime? Key.pairFirstTime = some time then
      { p with reminder := none }.reportTimeout
    else .finish p .done

/-- A first matching event becomes pending, with a check scheduled for the end of its window. -/
def firstHit (p : Pair) (e : Event) (data : Option Value) : Script Pair :=
  .survey fun s =>
    .create Topic.pairTimeoutCheck (.pairs [(Key.pairFirstTime, .time s.clock.wall)]) none
      fun check =>
        match p.outlet with
        | none => .finish p (.failed (.executionFailed "pair behavior not initialised"))
        | some outlet =>
          .emitAfter outlet p.window check fun reminder =>
            .finish { p with
              pending := some s.clock.wall, since := some s.clock.mono
              data, scene := e.scene, reminder := some reminder } .done

/-- Cancels the check, if there is one, and forgets it. -/
def cancelCheck (p : Pair) (k : Pair → Script Pair) : Script Pair :=
  match p.reminder with
  | none => k p
  | some reminder => .cancelReminder reminder (k { p with reminder := none })

/-- A second matching event resolves the pending one, as a pair or as a timeout. -/
def secondHit (p : Pair) (data : Option Value) : Script Pair :=
  p.cancelCheck fun p => .survey fun s =>
    if p.since.elim 0 s.clock.mono.since > p.window.nanos then p.reportTimeout
    else p.reportPair data

def init (p : Pair) (outlet : Outlet) : Script Pair :=
  .finish { p with outlet := some outlet } .done

def process (p : Pair) (e : Event) : Script Pair :=
  if e.topic = Topic.pairTimeoutCheck then p.check e
  else match p.criterion e p.data with
    | .panicked panic => .finish p (.panicked panic)
    | .miss => .finish p .done
    | .hit data => if p.pending.isSome then p.secondHit data else p.firstHit e data

/-- The last call cancels the check; the pending event stays unreported. -/
def terminate (p : Pair) : Script Pair := p.cancelCheck fun p => .finish p .done

instance : Behavior Pair where
  init := init
  process := process
  terminate := terminate

end Pair

end EventMesh
