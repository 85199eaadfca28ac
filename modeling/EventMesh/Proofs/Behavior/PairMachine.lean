import EventMesh.Behavior.Resident
import EventMesh.Proofs.Behavior.Attempts

/-!
# The machine of pairs

A detector of pairs is a machine of two states: nothing is open, or a hit is, with its times, its
data, its scene and the reminder of its check. Main statement: whatever events a detector handles, in
whatever worlds, its fields and its attempts are those of the machine (`pair_refines_machine`), and
every hit that was opened is reported once or still open.
-/

namespace EventMesh

open Time

namespace PairMachine

/-- A hit that waits for its partner. -/
structure Hit where
  /-- The time of day of the hit. -/
  time : Wall
  /-- Its time on the running clock. -/
  since : Instant
  data : Option Value
  scene : Option SceneId
  /-- The reminder that brings its check. -/
  reminder : ReminderId

inductive State where
  | idle
  | pending (hit : Hit)

/-- The data of the open hit, if there is one and it has data. -/
def State.data : State → Option Value
  | .idle => none
  | .pending hit => hit.data

/-- How many hits are open. -/
def State.count : State → Nat
  | .idle => 0
  | .pending _ => 1

/-- A value under a key, or nothing. -/
def entry (key : String) (value : Option Value) : List (String × Value) :=
  (value.map fun v => (key, v)).toList

/-- What the check of a hit says. -/
def checkNotice (time : Wall) : Notice :=
  ⟨Topic.pairTimeoutCheck, [(Key.pairFirstTime, .time time)], none⟩

/-- The report of a pair. -/
def Hit.pairNotice (hit : Hit) (now : Wall) (data : Option Value) : Notice where
  topic := Topic.pair
  entries := entry Key.pairFirstData hit.data ++ (Key.pairFirstTime, .time hit.time) ::
    entry Key.pairSecondData data ++ [(Key.pairSecondTime, .time now)]
  scene := hit.scene

/-- The report of a hit whose partner is late or missing. -/
def Hit.timeoutNotice (hit : Hit) (now : Wall) : Notice where
  topic := Topic.pairTimeout
  entries := entry Key.pairFirstData hit.data ++
    [(Key.pairFirstTime, .time hit.time), (Key.pairTimeout, .time now)]
  scene := hit.scene

/-- What a call of the machine reads: the clocks, the next reminder and an event. -/
structure Input where
  clock : Clock
  fresh : ReminderId
  event : Event

/-- What a call of a behavior gives the machine to read. -/
def Input.ofCall {γ : Type} (call : World (Resident γ) × Event) : Input :=
  ⟨call.1.clock, call.1.reminders.next, call.2⟩

section Machine

variable (criterion : Criterion) (window : Duration) (outlet : Outlet)

/-- One call of the machine. -/
def step (s : State) (i : Input) : State × List (Attempt Notice) :=
  if i.event.topic = Topic.pairTimeoutCheck then
    match s with
    | .idle => (.idle, [])
    | .pending hit =>
      if i.event.payload.getTime? Key.pairFirstTime = some hit.time then
        (.idle, [.emit outlet (hit.timeoutNotice i.clock.wall)])
      else (.pending hit, [])
  else
    match criterion i.event s.data, s with
    | .hit data, .idle =>
      (.pending ⟨i.clock.wall, i.clock.mono, data, i.event.scene, i.fresh⟩,
        [.schedule outlet window (checkNotice i.clock.wall) i.fresh])
    | .hit data, .pending hit =>
      (.idle, [.cancel hit.reminder, .emit outlet <|
        if i.clock.mono.since hit.since ≤ window.nanos then hit.pairNotice i.clock.wall data
        else hit.timeoutNotice i.clock.wall])
    | _, s => (s, [])

/-- The machine from a state, one call after the other. -/
def run (s : State) : List Input → State × List (Attempt Notice)
  | [] => (s, [])
  | i :: inputs =>
    let (next, tried) := step criterion window outlet s i
    let (last, rest) := run next inputs
    (last, tried ++ rest)

/-- The fields of a detector in a state of the machine. -/
def State.pair : State → Pair
  | .idle => { criterion, window, outlet := some outlet }
  | .pending hit =>
    { criterion, window, outlet := some outlet
      pending := some hit.time, since := some hit.since, data := hit.data, scene := hit.scene
      reminder := some hit.reminder }

end Machine

/-! ### Scripts of pairs -/

section Scripts

variable {γ : Type}

/-- What becomes of a detector that plays a script, and what can be seen of its attempts. -/
def play (w : World (Resident γ)) (s : Script Pair) : Resident γ × List (Attempt Notice) :=
  ((World.perform (s.map .pair) w).1,
    (World.attempts (s.map .pair) w).map (·.map Event.notice))

variable (w : World (Resident γ)) {p : Pair} {time : Wall} {outlet : Outlet}

/-- A report clears what is pending and is attempted once, whether or not it can be sent. -/
theorem play_report (hp : p.pending = some time) (ho : p.outlet = some outlet) (topic : String)
    (values : List (String × Value)) :
    play w (p.report topic values) = (.pair p.resolved,
      [.emit outlet ⟨topic, Dict.insertAll [] ((Key.pairFirstTime, .time time) ::
        (p.data.map fun d => (Key.pairFirstData, d)).toList ++ values), p.scene⟩]) := by
  unfold Pair.report
  rw [hp, ho]
  rfl

/-- The entries of the report that a partner is late or missing. -/
theorem insertAll_timeout (time now : Wall) (data : Option Value) :
    Dict.insertAll [] ((Key.pairFirstTime, Value.time time) ::
        (data.map fun d => (Key.pairFirstData, d)).toList ++ [(Key.pairTimeout, Value.time now)]) =
      entry Key.pairFirstData data ++
        [(Key.pairFirstTime, .time time), (Key.pairTimeout, .time now)] := by
  cases data <;> rfl

/-- The entries of the report of a pair. -/
theorem insertAll_pair (time now : Wall) (first second : Option Value) :
    Dict.insertAll [] ((Key.pairFirstTime, Value.time time) ::
        (first.map fun d => (Key.pairFirstData, d)).toList ++
          ((Key.pairSecondTime, Value.time now) ::
            (second.map fun d => (Key.pairSecondData, d)).toList)) =
      entry Key.pairFirstData first ++ (Key.pairFirstTime, .time time) ::
        entry Key.pairSecondData second ++ [(Key.pairSecondTime, .time now)] := by
  cases first <;> cases second <;> rfl

theorem play_reportTimeout (hp : p.pending = some time) (ho : p.outlet = some outlet) :
    play w p.reportTimeout = (.pair p.resolved,
      [.emit outlet ⟨Topic.pairTimeout, entry Key.pairFirstData p.data ++
        [(Key.pairFirstTime, .time time), (Key.pairTimeout, .time w.clock.wall)], p.scene⟩]) := by
  have reported := play_report w hp ho Topic.pairTimeout [(Key.pairTimeout, .time w.clock.wall)]
  rw [insertAll_timeout] at reported
  exact reported

theorem play_reportPair (hp : p.pending = some time) (ho : p.outlet = some outlet)
    (data : Option Value) :
    play w (p.reportPair data) = (.pair p.resolved,
      [.emit outlet ⟨Topic.pair, entry Key.pairFirstData p.data ++ (Key.pairFirstTime, .time time) ::
        entry Key.pairSecondData data ++ [(Key.pairSecondTime, .time w.clock.wall)], p.scene⟩]) := by
  have reported := play_report w hp ho Topic.pair ((Key.pairSecondTime, .time w.clock.wall) ::
    (data.map fun d => (Key.pairSecondData, d)).toList)
  rw [insertAll_pair] at reported
  exact reported

end Scripts

/-! ### Calls -/

section Calls

variable {γ : Type} (w : World (Resident γ)) (criterion : Criterion) (window : Duration)
  (outlet : Outlet) (hit : Hit)

theorem play_check_idle (e : Event) :
    play w ((State.idle.pair criterion window outlet).check e) =
      (.pair (State.idle.pair criterion window outlet), []) :=
  rfl

/-- A check resolves the open hit just if it names the time of that hit. -/
theorem play_check_pending (e : Event) :
    play w (((State.pending hit).pair criterion window outlet).check e) =
      if e.payload.getTime? Key.pairFirstTime = some hit.time then
        (.pair (State.idle.pair criterion window outlet),
          [.emit outlet (hit.timeoutNotice w.clock.wall)])
      else (.pair ((State.pending hit).pair criterion window outlet), []) := by
  unfold Pair.check State.pair
  dsimp only
  split
  · exact play_reportTimeout w rfl rfl
  · rfl

/-- A first hit is opened, and its check scheduled once. -/
theorem play_firstHit (e : Event) (data : Option Value) :
    play w ((State.idle.pair criterion window outlet).firstHit e data) =
      (.pair ((State.pending ⟨w.clock.wall, w.clock.mono, data, e.scene, w.reminders.next⟩).pair
        criterion window outlet),
        [.schedule outlet window (checkNotice w.clock.wall) w.reminders.next]) := by
  cases outlet <;> rfl

/-- A second hit calls the check off and resolves the open hit, whatever comes of the report. -/
theorem play_secondHit (data : Option Value) :
    play w (((State.pending hit).pair criterion window outlet).secondHit data) =
      (.pair (State.idle.pair criterion window outlet), [.cancel hit.reminder, .emit outlet <|
        if w.clock.mono.since hit.since ≤ window.nanos then hit.pairNotice w.clock.wall data
        else hit.timeoutNotice w.clock.wall]) := by
  let left : Pair := { (State.pending hit).pair criterion window outlet with reminder := none }
  have called : play w (((State.pending hit).pair criterion window outlet).secondHit data) =
      ((play (w.cancelReminder hit.reminder)
        (if (w.cancelReminder hit.reminder).clock.mono.since hit.since > window.nanos then
          left.reportTimeout else left.reportPair data)).1,
        .cancel hit.reminder :: (play (w.cancelReminder hit.reminder)
          (if (w.cancelReminder hit.reminder).clock.mono.since hit.since > window.nanos then
            left.reportTimeout else left.reportPair data)).2) :=
    rfl
  have late := play_reportTimeout (w.cancelReminder hit.reminder) (p := left) rfl rfl
  have paired := play_reportPair (w.cancelReminder hit.reminder) (p := left) rfl rfl data
  rw [World.cancelReminder_clock] at called late paired
  rw [called]
  by_cases h : w.clock.mono.since hit.since ≤ window.nanos
  · rw [if_neg (by omega), if_pos h, paired]
    rfl
  · rw [if_pos (by omega), if_neg h, late]
    rfl

variable [CustomBehavior γ]

/-- **One call of a detector is one call of the machine.** -/
theorem handling_refines (s : State) (e : Event) :
    (w.handling (.pair (s.pair criterion window outlet)) e).1 =
        .pair ((step criterion window outlet s (.ofCall (w, e))).1.pair
          criterion window outlet) ∧
      (w.handling (.pair (s.pair criterion window outlet)) e).2.map (·.map Event.notice) =
        (step criterion window outlet s (.ofCall (w, e))).2 := by
  have played : ∀ {r : Resident γ} {tried : List (Attempt Notice)},
      play w ((s.pair criterion window outlet).process e) = (r, tried) →
        (w.handling (.pair (s.pair criterion window outlet)) e).1 = r ∧
          (w.handling (.pair (s.pair criterion window outlet)) e).2.map (·.map Event.notice) =
            tried := by
    intro r tried h
    exact ⟨congrArg Prod.fst h, congrArg Prod.snd h⟩
  apply played
  unfold step Pair.process Input.ofCall
  dsimp only
  split
  · cases s with
    | idle => exact play_check_idle w criterion window outlet e
    | pending hit =>
      rw [play_check_pending]
      dsimp only
      split
      · rfl
      · rfl
  · have asked : (s.pair criterion window outlet).criterion e (s.pair criterion window outlet).data =
        criterion e s.data := by
      cases s <;> rfl
    rw [asked]
    cases criterion e s.data with
    | miss => rfl
    | panicked p => rfl
    | hit data =>
      cases s with
      | idle => exact play_firstHit w criterion window outlet e data
      | pending hit => exact play_secondHit w criterion window outlet hit data

/-- Calls of a detector are calls of the machine. -/
theorem handlings_refine (s : State) (calls : List (World (Resident γ) × Event)) :
    (World.handlings (.pair (s.pair criterion window outlet)) calls).1 =
        .pair ((run criterion window outlet s (calls.map Input.ofCall)).1.pair
          criterion window outlet) ∧
      (World.handlings (.pair (s.pair criterion window outlet)) calls).2.map
          (·.map Event.notice) =
        (run criterion window outlet s (calls.map Input.ofCall)).2 := by
  induction calls generalizing s with
  | nil => exact ⟨rfl, rfl⟩
  | cons call calls ih =>
    obtain ⟨w, e⟩ := call
    obtain ⟨next, tried⟩ := handling_refines w criterion window outlet s e
    obtain ⟨last, rest⟩ := ih (step criterion window outlet s (.ofCall (w, e))).1
    simp only [World.handlings, List.map_cons, run, List.map_append]
    rw [next, tried]
    exact ⟨last, congrArg _ rest⟩

end Calls

/-! ### The account of hits -/

section Account

variable (criterion : Criterion) (window : Duration) (outlet : Outlet)

/-- A call opens a hit, closes one with a report, or does neither. -/
theorem step_count (s : State) (i : Input) :
    s.count + (step criterion window outlet s i).2.countP Attempt.isSchedule =
      (step criterion window outlet s i).1.count +
        (step criterion window outlet s i).2.countP Attempt.isEmit := by
  unfold step
  split
  · cases s with
    | idle => rfl
    | pending hit =>
      dsimp only
      split
      · rfl
      · rfl
  · cases criterion i.event s.data with
    | miss => cases s <;> rfl
    | panicked p => cases s <;> rfl
    | hit data => cases s <;> rfl

theorem run_count (s : State) (inputs : List Input) :
    s.count + (run criterion window outlet s inputs).2.countP Attempt.isSchedule =
      (run criterion window outlet s inputs).1.count +
        (run criterion window outlet s inputs).2.countP Attempt.isEmit := by
  induction inputs generalizing s with
  | nil => rfl
  | cons i inputs ih =>
    have first := step_count criterion window outlet s i
    have rest := ih (step criterion window outlet s i).1
    simp only [run, List.countP_append]
    omega

/-- **A detector of pairs is the machine of pairs.** From its first call on, whatever events a
detector handles in whatever worlds, its fields are those of the machine and it attempts just what
the machine does, whether or not its events can be sent; and the hits that were opened are those
reported and the one that is still open. -/
theorem pair_refines_machine {γ : Type} [CustomBehavior γ] (w₀ : World (Resident γ))
    (calls : List (World (Resident γ) × Event)) :
    let born := (World.perform (Behavior.init (Resident.pair { criterion, window }) outlet) w₀).1
    let machine := run criterion window outlet .idle (calls.map Input.ofCall)
    (World.handlings born calls).1 = .pair (machine.1.pair criterion window outlet) ∧
      (World.handlings born calls).2.map (·.map Event.notice) = machine.2 ∧
      machine.2.countP Attempt.isSchedule =
        machine.1.count + machine.2.countP Attempt.isEmit := by
  intro born machine
  obtain ⟨fields, tried⟩ := handlings_refine criterion window outlet .idle calls
  refine ⟨fields, tried, ?_⟩
  have account := run_count criterion window outlet .idle (calls.map Input.ofCall)
  rwa [State.count, Nat.zero_add] at account

end Account

end PairMachine

end EventMesh
