import EventMesh.Proofs.Behavior.WallClock
import EventMesh.Proofs.Mesh.Bystander
import EventMesh.Proofs.Mesh.CallOrder
import EventMesh.Proofs.Mesh.Shutdown
import EventMesh.Proofs.Mesh.Watch

/-!
# No hit outlives its window

While a detector of pairs has an open hit, the check of the hit is on its way: it waits in the queue of
the detector, or it is watched for (`Expects`). A call of the detector closes the hit, or leaves all
as it is, or opens a hit with a check of its own (`Called`); all that others do may bring the check, but
does not keep it back, since nobody else calls its reminder off (`KeepsOff`). Where nothing is ready and
no timer is to fire (`World.Still`) the check can only be asleep, and sleeps until the window ends. Main
statement: `no_hit_outlives_its_window`.
-/

namespace EventMesh

open Time

namespace PairMachine

open World

/-! ### Calls of a detector -/

section Call

variable {γ : Type} (criterion : Criterion) (window : Duration) (outlet : Outlet)

/-- A call leaves nothing open, or changes nothing and was not the check of the open hit, or opens a hit
and schedules its check. -/
theorem step_fate (s : State) (i : Input) :
    (step criterion window outlet s i).1 = .idle ∨
      (step criterion window outlet s i = (s, []) ∧
        ∀ hit, s = .pending hit → ¬ IsCheck i.event hit.time) ∨
      ∃ data, step criterion window outlet s i =
        (.pending ⟨i.clock.wall, i.clock.mono, data, i.event.scene, i.fresh⟩,
          [.schedule outlet window (checkNotice i.clock.wall) i.fresh]) := by
  by_cases checks : i.event.topic = Topic.pairTimeoutCheck
  · unfold step
    rw [if_pos checks]
    cases s with
    | idle => exact Or.inl rfl
    | pending hit =>
      dsimp only
      split
      · exact Or.inl rfl
      · rename_i other
        refine Or.inr (Or.inl ⟨rfl, ?_⟩)
        rintro _ ⟨⟩ check
        exact other check.time
  · rcases step_cases criterion window outlet s checks with same | ⟨data, -, opens⟩ | ⟨hit, n, -, closes⟩
    · exact Or.inr (Or.inl ⟨same, fun hit _ check => checks check.topic⟩)
    · exact Or.inr (Or.inr ⟨data, opens⟩)
    · exact Or.inl (congrArg Prod.fst closes)

/-- What a call of a detector with an event comes to, for its state and for the world. -/
inductive Called (w : World (Resident γ)) (s : State) (e : Event) : State → World (Resident γ) → Prop
  /-- Nothing is open afterwards. -/
  | resolved (w' : World (Resident γ)) : Called w s e .idle w'
  /-- All stays as it is; the event was not the check of the open hit. -/
  | passed (stale : ∀ hit, s = .pending hit → ¬ IsCheck e hit.time) (serials : Serials) :
      Called w s e s { w with serials }
  /-- A hit is open, and its check is scheduled. -/
  | opened {hit : Hit} {check : Event} (since : hit.since = w.now)
      (reminder : hit.reminder = w.reminders.next) (checks : IsCheck check hit.time)
      (drawn spent : Serials) :
      Called w s e (.pending hit)
        { ({ w with serials := drawn }.emitAfter outlet window check).2 with serials := spent }

variable [CustomBehavior γ]

/-- What a detector makes of an event. -/
theorem called_perform (w : World (Resident γ)) (s : State) (e : Event) :
    ∃ s', (perform (Behavior.process (Resident.pair (s.pair criterion window outlet)) e) w).1 =
        .pair (s'.pair criterion window outlet) ∧
      Called window outlet w s e s'
        (perform (Behavior.process (Resident.pair (s.pair criterion window outlet)) e) w).2.2 := by
  obtain ⟨becomes, tried⟩ := handling_refines w criterion window outlet s e
  refine ⟨_, becomes, ?_⟩
  rcases step_fate criterion window outlet s (.ofCall (w, e)) with idle | ⟨same, stale⟩ | ⟨data, opens⟩
  · rw [idle]
    exact .resolved _
  · rw [same] at tried ⊢
    obtain ⟨serials, performed⟩ := perform_of_no_attempts (List.map_eq_nil_iff.mp tried)
    rw [performed]
    exact .passed stale serials
  · rw [opens] at tried ⊢
    obtain ⟨a, attempted, schedules⟩ := List.map_eq_singleton_iff.mp tried
    obtain ⟨check, rfl, told⟩ := Attempt.map_eq_schedule schedules
    obtain ⟨drawn, spent, performed⟩ := perform_of_schedule attempted
    rw [performed]
    exact .opened rfl rfl (isCheck_of_notice told) drawn spent

/-- A detector handles an event in one call; it recovers from a panic and goes on as it was. -/
theorem handle_pair (w : World (Resident γ)) (key : CellKey) (s : State) (e : Event) :
    ∃ s' w₁, ∃ calls : List Call → List Call, Called window outlet
        (w.modifyCell key fun c => { c with queue := c.queue.tail }) s e s' w₁ ∧
      Course (w.modifyCell key fun c => { c with queue := c.queue.tail }) w₁ ∧
      w.handle key (.pair (s.pair criterion window outlet)) e = w₁.modifyCell key fun c =>
        { c with resident := .pair (s'.pair criterion window outlet), calls := calls c.calls } := by
  obtain ⟨s', becomes, called⟩ := called_perform criterion window outlet
    (w.modifyCell key fun c => { c with queue := c.queue.tail }) s e
  have course := course_perform
    (Behavior.process (Resident.pair (s.pair criterion window outlet) : Resident γ) e)
    (w.modifyCell key fun c => { c with queue := c.queue.tail })
  unfold handle
  dsimp only
  generalize perform (Behavior.process (Resident.pair (s.pair criterion window outlet)) e)
    (w.modifyCell key fun c => { c with queue := c.queue.tail }) = result at becomes called course ⊢
  obtain ⟨resident, outcome, w₁⟩ := result
  obtain rfl : resident = .pair (s'.pair criterion window outlet) := becomes
  cases outcome with
  | done => exact ⟨s', w₁, (· ++ [.process e .done]), called, course, rfl⟩
  | failed err => exact ⟨s', w₁, (· ++ [.process e (.failed err)]), called, course, rfl⟩
  | panicked p =>
    refine ⟨s', w₁, (· ++ [.process e (.panicked p)] ++ [.recover (.panicked p.text) .done]), called,
      course, ?_⟩
    exact congrArg (fun cells => { w₁ with cells }) (Table.modify_modify _ _ _ _)

end Call

/-! ### The check of an open hit -/

/-- A booking is that of the check of a hit. -/
structure Hit.Books (hit : Hit) (key : CellKey) (window : Duration) (k : Booking) : Prop where
  cell : k.cell = key
  reminder : k.reminder = hit.reminder
  delay : k.delay = window
  since : k.since = hit.since
  check : IsCheck k.event hit.time

/-- The check of a hit waits in a queue, or it is watched for. -/
def Expects {β : Type} (w : World β) (key : CellKey) (window : Duration) (hit : Hit)
    (queue : List Event) : Prop :=
  (∃ e ∈ queue, IsCheck e hit.time) ∨ ∃ k task, hit.Books key window k ∧ w.Watched k task

section Expects

variable {β : Type} {w w' : World β} {key : CellKey} {window : Duration} {hit : Hit}
  {queue : List Event}

/-- A change of other fields, and of the queue by more events, keeps the check on its way. -/
theorem Expects.of_eq (h : Expects w key window hit queue) {queue' : List Event}
    (sub : queue ⊆ queue') (now : w'.now = w.now) (tasks : w'.tasks = w.tasks)
    (reminders : w'.reminders = w.reminders) : Expects w' key window hit queue' := by
  rcases h with ⟨e, waits, check⟩ | ⟨k, task, books, watched⟩
  · exact Or.inl ⟨e, sub waits, check⟩
  · exact Or.inr ⟨k, task, books, watched.of_eq now tasks reminders⟩

/-- A call of a detector with the oldest event of its queue keeps the check of its hit on its way, or
sends the check of another. -/
theorem Called.expects {γ : Type} {w w' : World (Resident γ)} {mesh : MeshId} {id : CellId}
    {generation : Nat} {s s' : State} {e : Event} {rest : List Event}
    (called : Called window (.cell mesh key id generation) w s e s' w') (acquainted : w.Acquainted)
    (opened : s' = .pending hit) (before : s = .pending hit → Expects w key window hit (e :: rest)) :
    Expects w' key window hit rest := by
  cases called with
  | resolved => cases opened
  | passed stale serials =>
    rcases before opened with ⟨e', waits, check⟩ | watched
    · rcases List.mem_cons.mp waits with rfl | waits
      · exact absurd check (stale hit opened)
      · exact Or.inl ⟨e', waits, check⟩
    · exact Expects.of_eq (Or.inr watched) (List.Subset.refl rest) rfl rfl rfl
  | @opened hit' check since reminder checks drawn spent =>
    obtain rfl : hit' = hit := State.pending.inj opened
    have watched := watched_emitAfter (w := { w with serials := drawn }) acquainted mesh key id
      generation window check
    exact Or.inr ⟨_, _, ⟨rfl, reminder.symm, rfl, since.symm, checks⟩, watched.of_eq rfl rfl rfl⟩

/-- Whatever others do that keep off the reminder of a hit, its check is on its way. -/
theorem Expects.act [Behavior β] {c c' : Cell β} (h : Expects w key window hit c.queue) {wall : Wall}
    (arises : w.Arises wall) {m : Move β} (fair : w.Fair m) (clock : w.ClockWaits m)
    (live : w.isCancelled hit.reminder = false → (w.act m).isCancelled hit.reminder = false)
    (hc : w.cells.get? key = some c) (hc' : (w.act m).cells.get? key = some c') (bides : c.Bides c')
    (begun : c.phase ≠ .starting) (takes : w.Takes key) (takes' : (w.act m).Takes key) :
    Expects (w.act m) key window hit c'.queue := by
  rcases h with ⟨e, waits, check⟩ | ⟨k, task, books, watched⟩
  · exact Or.inl ⟨e, bides.queue.subset waits, check⟩
  · obtain rfl := books.cell
    have on : (w.act m).isCancelled k.reminder = false := by
      have earlier := watched.live
      rw [books.reminder] at earlier ⊢
      exact live earlier
    rcases watched.act arises fair clock on takes' hc begun with ⟨task', still⟩ | came
    · exact Or.inr ⟨k, task', books, still⟩
    · have settled := takes.accepted_eq arises hc
      have settled' := takes'.accepted_eq (arises.act fair) hc'
      rw [acceptedBy, acceptedBy, hc, hc'] at came
      exact Or.inl ⟨k.event, bides.mem_queue settled settled' came, books.check⟩

end Expects

section Minds

variable {γ : Type} (criterion : Criterion) (window : Duration) (mesh : MeshId) (key : CellKey)
  (id : CellId) (generation : Nat) (kept : ReminderId → Prop)

/-- The incarnation has begun and did not break off, and while its loop goes on it is a detector. If its
open hit has a reminder that others keep off, and it takes events, the check of the hit is on its way. -/
structure Minds (w : World (Resident γ)) (c : Cell (Resident γ)) : Prop where
  begun : c.phase ≠ .starting
  whole : c.phase ≠ .crashed
  detects : c.phase = .running ∨ c.phase = .draining →
    ∃ s : State, c.resident = .pair (s.pair criterion window (.cell mesh key id generation)) ∧
      ∀ hit, s = .pending hit → kept hit.reminder → w.Takes key → Expects w key window hit c.queue

/-- The incarnation is there and minds its hit. -/
def MindsAt (w : World (Resident γ)) : Prop :=
  ∃ c, w.cells.get? key = some c ∧ Minds criterion window mesh key id generation kept w c

variable {criterion window mesh key id generation kept} {w : World (Resident γ)} [CustomBehavior γ]

/-- Whatever others do, the incarnation minds its hit. -/
theorem MindsAt.other (h : MindsAt criterion window mesh key id generation kept w) {wall : Wall}
    (arises : w.Arises wall) {m : Move (Resident γ)} (other : m ≠ .turn (.cell key))
    (fair : w.Fair m) (clock : w.ClockWaits m) (secret : ∀ r, kept r → w.KeepsOff key r m) :
    MindsAt criterion window mesh key id generation kept (w.act m) := by
  obtain ⟨c, hc, minds⟩ := h
  obtain ⟨c', hc', bides⟩ := bidesAt_act w other c hc
  have begun : c'.phase ≠ .starting := bides.phase_ne minds.begun (by decide)
  have whole : c'.phase ≠ .crashed := bides.phase_ne minds.whole (by decide)
  refine ⟨c', hc', begun, whole, fun going => ?_⟩
  obtain ⟨s, resident, minded⟩ := minds.detects (bides.went_on going)
  refine ⟨s, bides.resident.trans resident, fun hit opened own takes' => ?_⟩
  have takes := takes'.before (beats_act fair) arises.coherent arises.orderly hc minds.begun
  have live := (secret hit.reminder own).resolve_left other
  exact (minded hit opened own takes).act arises fair clock live hc hc' bides minds.begun takes takes'

/-- When the incarnation handles an event, the check of the hit that is open afterwards is on its way. -/
theorem mindsAt_handle {c : Cell (Resident γ)} (hc : w.cells.get? key = some c)
    (going : c.phase = .running ∨ c.phase = .draining) {e : Event} {rest : List Event}
    (hq : c.queue = e :: rest) {s : State} (acquainted : w.Acquainted)
    (minded : ∀ hit, s = .pending hit → kept hit.reminder →
      (w.handle key (.pair (s.pair criterion window (.cell mesh key id generation))) e).Takes key →
        Expects w key window hit (e :: rest)) :
    MindsAt criterion window mesh key id generation kept
      (w.handle key (.pair (s.pair criterion window (.cell mesh key id generation))) e) := by
  obtain ⟨s', w₁, calls, called, course, handled⟩ :=
    handle_pair criterion window (.cell mesh key id generation) w key s e
  rw [handled] at minded ⊢
  set taken := w.modifyCell key fun c => { c with queue := c.queue.tail } with taken_def
  have there : taken.cells.get? key = some { c with queue := rest } := by
    rw [taken_def, get?_modifyCell, if_pos rfl, hc, Option.map_some, hq]
    rfl
  obtain ⟨c₁, hc₁, bides⟩ := course.bidesAt key _ there
  have phase := bides.going going
  refine ⟨{ c₁ with
    resident := .pair (s'.pair criterion window (.cell mesh key id generation))
    calls := calls c₁.calls }, ?_, fun starting => ?_, fun crashed => ?_, fun _ => ⟨s', rfl, ?_⟩⟩
  · rw [get?_modifyCell, if_pos rfl, hc₁]
    rfl
  · rw [show c₁.phase = .starting from starting] at phase
    rcases phase with hp | hp <;> cases hp
  · rw [show c₁.phase = .crashed from crashed] at phase
    rcases phase with hp | hp <;> cases hp
  · intro hit opened own takes
    have known : taken.Acquainted := acquainted
    have expects : Expects w₁ key window hit rest :=
      called.expects known opened fun earlier =>
        (minded hit earlier own takes).of_eq (List.Subset.refl _) rfl rfl rfl
    exact expects.of_eq bides.queue.subset rfl rfl rfl

/-- In its own turn the incarnation minds the hit that is open afterwards. -/
theorem MindsAt.turn (h : MindsAt criterion window mesh key id generation kept w) {wall : Wall}
    (arises : w.Arises wall) :
    MindsAt criterion window mesh key id generation kept (w.stepCell key) := by
  obtain ⟨c, hc, minds⟩ := h
  have before (takes' : (w.stepCell key).Takes key) : w.Takes key :=
    takes'.before (tracks_beats.stepCell w rfl) arises.coherent arises.orderly hc minds.begun
  rcases stepCell_cases hc with dismissed | ⟨-, finished⟩ | ⟨e, rest, going, hq, handles⟩
  · rw [dismissed]
    refine ⟨c, hc, minds.begun, minds.whole, fun going => ?_⟩
    obtain ⟨s, resident, minded⟩ := minds.detects going
    refine ⟨s, resident, fun hit opened own takes => ?_⟩
    exact (minded hit opened own takes).of_eq (List.Subset.refl _) rfl rfl rfl
  · obtain ⟨c', -, hc', ended, -⟩ := get?_finish hc c.resident
    rw [finished]
    refine ⟨c', hc', ?_, ?_, ?_⟩ <;> rw [ended] <;> nofun
  · obtain ⟨s, resident, minded⟩ := minds.detects going
    rw [resident] at handles
    rw [handles] at before ⊢
    rw [hq] at minded
    exact mindsAt_handle hc going hq (acquainted_beats arises.beats)
      fun hit opened own takes => minded hit opened own (before takes)

/-- **A detector minds its hits in a whole run.** -/
theorem MindsAt.run (h : MindsAt criterion window mesh key id generation kept w) {wall : Wall}
    (arises : w.Arises wall) {moves : List (Move (Resident γ))} (fair : w.Fairly moves)
    (clock : w.Obeys ClockWaits moves) (secret : ∀ r, kept r → w.Obeys (KeepsOff key r) moves) :
    MindsAt criterion window mesh key id generation kept (w.run moves) ∧
      (w.run moves).Arises wall := by
  induction moves generalizing w with
  | nil => exact ⟨h, arises⟩
  | cons m moves ih =>
    refine ih ?_ (arises.act fair.1) fair.2 clock.2 fun r own => (secret r own).2
    by_cases own : m = .turn (.cell key)
    · subst own
      exact h.turn arises
    · exact h.other arises own fair.1 clock.1 fun r hr => (secret r hr).1

end Minds

/-! ### Windows -/

section Windows

variable {γ : Type} {criterion : Criterion} {window : Duration} {key : CellKey}

/-- The incarnation has just begun as a detector: it has its outlet, and no hit is open. -/
def BeginsPairing (w : World (Resident γ)) (key : CellKey) (criterion : Criterion)
    (window : Duration) : Prop :=
  ∃ c, w.cells.get? key = some c ∧ c.phase = .running ∧ c.resident =
    .pair { criterion, window, outlet := some (.cell c.mesh key c.id c.generation) }

/-- What has just begun as a detector minds whatever hits it will open. -/
theorem BeginsPairing.mindsAt {w : World (Resident γ)} (h : BeginsPairing w key criterion window) :
    ∃ mesh id generation, ∀ kept,
      MindsAt criterion window mesh key id generation kept w := by
  obtain ⟨c, hc, running, resident⟩ := h
  refine ⟨c.mesh, c.id, c.generation, fun kept => ⟨c, hc, ?_, ?_, fun _ => ⟨.idle, resident, ?_⟩⟩⟩
  · rw [running]
    nofun
  · rw [running]
    nofun
  · nofun

variable [CustomBehavior γ]

/-- A detector begins so in every start that succeeds. -/
theorem beginsPairing_start {w : World (Resident γ)} {mesh : MeshId} {id : CellId}
    (ok : (w.start mesh id (.pair { criterion, window })).1 = .ok ()) :
    BeginsPairing (w.start mesh id (.pair { criterion, window })).2 w.cells.next criterion window := by
  obtain ⟨c, hc, -, -, running, -, resident⟩ := get?_start
    (fun outlet => .pair { criterion, window, outlet := some outlet }) (fun _ => rfl) ok
  exact ⟨c, hc, running, resident⟩

omit [CustomBehavior γ] in
/-- An incarnation that is registered in a mesh that somebody holds takes events, if it did not break
off. -/
theorem takes_of_registered {w : World (Resident γ)} {wall : Wall}
    (steps : Steps (startingAt wall) atRest w atRest) {c : Cell (Resident γ)}
    (hc : w.cells.get? key = some c) (whole : c.phase ≠ .crashed) (alive : w.isAlive c.mesh = true)
    (registered : w.lookUp c.mesh c.id = some key) : c.phase = .running ∧ w.Takes key := by
  have running : c.phase = .running := by
    obtain ⟨c', hc', -, -, bound⟩ := (orderly_steps steps).found c.mesh c.id key registered
    cases hc.symm.trans hc'
    exact bound.resolve_right whole
  obtain ⟨m, hm, named⟩ := Option.bind_eq_some_iff.mp registered
  have going : m.stopping = false := Bool.eq_false_iff.mpr fun stopping => by
    rw [(Closed.of_stopping steps hm stopping).lookUp] at registered
    cases registered
  refine ⟨running, c, hc, alive, ?_⟩
  have taker : w.taker? m c.id = some key := by
    simp [taker?, named, hc, Cell.isOpen, running]
  simp [route, ifOpen, hm, going, taker]

/-- **No open hit outlives its window.** A detector of pairs has begun at some point of a fair run, in
which from then on the clock goes on only where nothing is ready. Wherever nothing is ready later and no
timer is to fire, the mesh is held and the detector registered: if a hit is open then, since an instant of
the running clock, the first whole millisecond after that instant at which the window is over is still to
come. Nothing is asked of the time of day, of what the detector handled in between (misses, checks of other
hits, whether or not its reports could be sent), or of the pairs that it found before; only the reminder of
the open hit is nobody's but the detector's to call off. -/
theorem no_hit_outlives_its_window (wall : Wall) {born after : List (Move (Resident γ))}
    {w₀ w : World (Resident γ)} (h₀ : (startingAt wall).run born = w₀) (h : w₀.run after = w)
    (fair : (startingAt wall).Fairly (born ++ after)) (clock : w₀.Obeys ClockWaits after)
    (begun : BeginsPairing w₀ key criterion window) {c : Cell (Resident γ)} {p : Pair}
    (hc : w.cells.get? key = some c) (resident : c.resident = .pair p)
    (secret : ∀ r, p.reminder = some r → w₀.Obeys (KeepsOff key r) after) (still : w.Still)
    (readable : w.now.nanos < Instant.bound) (alive : w.isAlive c.mesh = true)
    (registered : w.lookUp c.mesh c.id = some key) (opened : p.pending.isSome = true) :
    ∃ since, p.since = some since ∧ ∀ ms, since.nanos < ms * nanosPerMilli →
      since.nanos + window.nanos ≤ ms * nanosPerMilli → w.now.nanos < ms * nanosPerMilli := by
  have fairly := fairly_append.mp fair
  rw [h₀] at fairly
  obtain ⟨mesh, id, generation, minds⟩ := begun.mindsAt
  obtain ⟨⟨d, hd, minded⟩, arises⟩ :=
    (minds fun r => p.reminder = some r).run ⟨born, fairly.1, h₀⟩ fairly.2 clock secret
  rw [h] at hd minded arises
  cases hc.symm.trans hd
  obtain ⟨running, takes⟩ :=
    takes_of_registered arises.beats.steps hc minded.whole alive registered
  obtain ⟨s, detects, expects⟩ := minded.detects (Or.inl running)
  obtain rfl : p = s.pair criterion window (.cell mesh key id generation) :=
    Resident.pair.inj (resident.symm.trans detects)
  cases s with
  | idle => cases opened
  | pending hit =>
    refine ⟨hit.since, rfl, fun ms _ late => ?_⟩
    rcases expects hit rfl rfl takes with ⟨e, waits, -⟩ | ⟨k, task, books, watched⟩
    · -- Where nothing is ready no queue holds an event.
      have waiting : c.Pending := Or.inr ⟨running, List.ne_nil_of_mem waits⟩
      exact absurd waiting ((prompt_steps arises.beats.steps).at_rest still.settled hc)
    · refine watched.not_overdue arises still readable ?_
      rw [books.since, books.delay]
      exact late

end Windows

/-- A cell begins as a detector to which events of one topic are hits. -/
def pairing : List (Move (Resident Actor)) := [
  .openMesh "mesh" (.ofMillis 1000),
  .start ⟨0⟩ ⟨"pair"⟩ (.pair { criterion := .onTopic "m", window := .ofMillis 10 })]

/-- Two hits make a pair, and the first check is called off. -/
def firstPair : List (Move (Resident Actor)) := [
  .emitNew ⟨0⟩ ⟨"pair"⟩ "m" .empty, .turn (.cell ⟨0⟩), .turn (.task ⟨0⟩),
  .emitNew ⟨0⟩ ⟨"pair"⟩ "m" .empty, .turn (.cell ⟨0⟩), .turn (.cell ⟨0⟩), .turn (.task ⟨0⟩)]

/-- Three milliseconds later, after the time of day was set back, there is a third hit, with a miss and a
check of nothing behind it, and another four milliseconds later all is still. -/
def thirdHit : List (Move (Resident Actor)) := [
  .pass 3000000, .jump (-5000000000),
  .emitNew ⟨0⟩ ⟨"pair"⟩ "m" .empty, .emitNew ⟨0⟩ ⟨"pair"⟩ "other" .empty,
  .emitNew ⟨0⟩ ⟨"pair"⟩ Topic.pairTimeoutCheck .empty,
  .turn (.cell ⟨0⟩), .turn (.cell ⟨0⟩), .turn (.cell ⟨0⟩), .turn (.cell ⟨0⟩), .turn (.task ⟨1⟩),
  .pass 4000000]

def stillPairing : World (Resident Actor) :=
  ((startingAt ⟨0, 0⟩).run pairing).run (firstPair ++ thirdHit)

set_option maxRecDepth 4000 in
theorem still_stillPairing : stillPairing.Still := by
  refine ⟨rfl, fun t task due found waits ms late => ?_⟩
  have known : t.index < 2 := Table.index_lt_of_get? found
  have first : (stillPairing.tasks.get? ⟨0⟩).bind Task.due? = none := rfl
  have second : (stillPairing.tasks.get? ⟨1⟩).bind Task.due? = some ⟨13000000⟩ := rfl
  have now : stillPairing.now.nanos = 7000000 := rfl
  have its : (stillPairing.tasks.get? t).bind Task.due? = some due := by
    rw [found]
    exact waits
  obtain ⟨i⟩ := t
  obtain rfl | rfl : i = 0 ∨ i = 1 := by
    change i < 2 at known
    omega
  · rw [first] at its
    cases its
  · rw [second] at its
    cases its
    have late : 13000000 ≤ ms * nanosPerMilli := late
    omega

set_option maxRecDepth 4000 in
theorem no_hit_outlives_its_window_thirdHit :
    ∃ c p, stillPairing.cells.get? ⟨0⟩ = some c ∧ c.resident = .pair p ∧
      p.since = some ⟨3000000⟩ ∧ ∀ ms, 3000000 < ms * nanosPerMilli →
        3000000 + (Duration.ofMillis 10).nanos ≤ ms * nanosPerMilli →
          stillPairing.now.nanos < ms * nanosPerMilli := by
  have begun : BeginsPairing ((startingAt ⟨0, 0⟩ : World (Resident Actor)).run pairing) ⟨0⟩
      (.onTopic "m") (.ofMillis 10) :=
    beginsPairing_start (w := (startingAt ⟨0, 0⟩).act (.openMesh "mesh" (.ofMillis 1000))) rfl
  have fair : (startingAt ⟨0, 0⟩ : World (Resident Actor)).Fairly
      (pairing ++ (firstPair ++ thirdHit)) := by
    simp [pairing, firstPair, thirdHit, Fairly, Fair]
  have clock : ((startingAt ⟨0, 0⟩ : World (Resident Actor)).run pairing).Obeys ClockWaits
      (firstPair ++ thirdHit) :=
    ⟨trivial, trivial, trivial, trivial, trivial, trivial, trivial, rfl, trivial, trivial, trivial,
      trivial, trivial, trivial, trivial, trivial, trivial, rfl, trivial⟩
  have detector : ∃ c p, stillPairing.cells.get? ⟨0⟩ = some c ∧ c.resident = .pair p ∧
      c.mesh = ⟨0⟩ ∧ c.id = ⟨"pair"⟩ ∧ p.since = some ⟨3000000⟩ ∧ p.pending.isSome = true ∧
      p.reminder = some ⟨1⟩ :=
    ⟨_, _, rfl, rfl, rfl, rfl, rfl, rfl, rfl⟩
  obtain ⟨c, p, hc, resident, mesh, id, since, opened, reminder⟩ := detector
  have secret : ∀ r, p.reminder = some r →
      ((startingAt ⟨0, 0⟩ : World (Resident Actor)).run pairing).Obeys (KeepsOff ⟨0⟩ r)
        (firstPair ++ thirdHit) := by
    intro r its
    obtain rfl : r = ⟨1⟩ := Option.some.inj (its.symm.trans reminder)
    have others {w : World (Resident Actor)} {m : Move (Resident Actor)}
        (on : (w.act m).isCancelled ⟨1⟩ = false) : KeepsOff ⟨0⟩ ⟨1⟩ w m := Or.inr fun _ => on
    have own {w : World (Resident Actor)} : KeepsOff ⟨0⟩ ⟨1⟩ w (.turn (.cell ⟨0⟩)) := Or.inl rfl
    exact ⟨others rfl, own, others rfl, others rfl, own, own, others rfl, others rfl, others rfl,
      others rfl, others rfl, others rfl, own, own, own, own, others rfl, others rfl, trivial⟩
  obtain ⟨since', same, in_time⟩ := no_hit_outlives_its_window ⟨0, 0⟩ rfl rfl fair clock begun hc
    resident secret still_stillPairing (by decide) (by rw [mesh]; rfl) (by rw [mesh, id]; rfl) opened
  cases since.symm.trans same
  exact ⟨c, p, hc, resident, since, in_time⟩

end PairMachine

end EventMesh
