import EventMesh.Proofs.Cli.PairTurns
import EventMesh.Proofs.Cli.Session
import EventMesh.Proofs.Wait.Board

/-!
# Pair sessions

What a pair session answers, for every gap and every window. The first tick waits for a partner
(`turns_opening`) until its window closes (`turns_expiry`); a second tick in time makes a pair of both
(`turns_inTime`), and one that comes late opens another hit, while the first one has been given up
(`turns_late`, `turns_late_empty`). Main statement: the session succeeds and answers by which of gap and
window is longer, and no moment of it finds both a pair and a timeout on the scene
(`pair_answers_by_gap`).
-/

namespace EventMesh.Cli

open PairMachine Time World

/-! ### Up to the first tick -/

section Opening

variable (config : Config) (window : Duration) (now : Wall)

/-- A session before its scene is there, with the cells that were started. -/
def foyer (mesh : Mesh) (cells : List (Cell (Resident Empty))) (ready : List Job) : Stock where
  clock := .startingAt now
  cells := ⟨⟨cells⟩⟩
  meshes := ⟨#[mesh]⟩
  ready

theorem startCell_pair :
    startCell (foyer now (pairMesh config [] []) [] []) ⟨0⟩ ⟨"pair"⟩
        (.pair { criterion := .onTopic tickTopic, window }) =
      .ok (foyer now (pairMesh config [(⟨"pair"⟩, ⟨0⟩)] []) [pairCell window .idle [] {}]
        [.cell ⟨0⟩]) := rfl

theorem startCell_observer :
    startCell (foyer now (pairMesh config [(⟨"pair"⟩, ⟨0⟩)] []) [pairCell window .idle [] {}]
        [.cell ⟨0⟩]) ⟨0⟩ ⟨"observer"⟩ (.sceneKeeper {}) =
      .ok (foyer now (pairMesh config [(⟨"observer"⟩, ⟨1⟩), (⟨"pair"⟩, ⟨0⟩)] [])
        [pairCell window .idle [] {}, observerCell [] {}] [.cell ⟨0⟩, .cell ⟨1⟩]) := rfl

theorem subscribe_observer :
    (foyer now (pairMesh config [(⟨"observer"⟩, ⟨1⟩), (⟨"pair"⟩, ⟨0⟩)] [])
        [pairCell window .idle [] {}, observerCell [] {}] [.cell ⟨0⟩, .cell ⟨1⟩]).subscribe
          ⟨0⟩ ⟨"pair"⟩ [⟨"observer"⟩] =
      (.ok (), foyer now (routedMesh config) [pairCell window .idle [] {}, observerCell [] {}]
        [.cell ⟨0⟩, .cell ⟨1⟩]) := rfl

/-- The stage on which a session begins. -/
def firstStage : Stage := { clock := .startingAt now, ready := [.cell ⟨0⟩, .cell ⟨1⟩] }

theorem addScene_first :
    (foyer now (routedMesh config) [pairCell window .idle [] {}, observerCell [] {}]
      [.cell ⟨0⟩, .cell ⟨1⟩]).addScene = (⟨0⟩, (firstStage now).world config window) := rfl

end Opening

/-! ### The first tick -/

section First

variable (now : Wall) (window : Duration)

/-- The hit that the first tick opens. -/
def firstHit : Hit := ⟨now, .zero, some (.int 1), some ⟨0⟩, ⟨0⟩⟩

/-- The task of its check. -/
def checkTask (progress : Progress) : Task where
  errand := .remind ⟨0⟩ ⟨0⟩ window (announced (checkNotice now) 1 now)
  progress

/-- The first tick waits for a partner. -/
def awaiting (clock : Clock) (progress : Progress) (ready : List Job) (d d' : Diary) : Stage where
  clock
  made := 2
  reminders := ⟨#[{ task := some ⟨0⟩ }]⟩
  tasks := ⟨#[checkTask now window progress]⟩
  state := .pending (firstHit now)
  pairDiary := d
  observerDiary := d'
  ready

/-- What the observer writes when the first tick is given up. -/
def lateReport (late : Wall) : Payload := .mk 2 ((firstHit now).timeoutNotice late).entries

/-- The first tick was given up, at the time of day told. -/
def expired (clock : Clock) (late : Wall) (d d' : Diary) : Stage where
  clock
  made := 3
  flags := ⟨#[⟨some (lateReport now late)⟩]⟩
  board := ⟨[(Topic.pairTimeout, lateReport now late)], [(Topic.pairTimeout, ⟨⟨0⟩, 0⟩)]⟩
  reminders := ⟨#[{ task := some ⟨0⟩ }]⟩
  tasks := ⟨#[checkTask now window (.finished .reminded)]⟩
  pairDiary := d
  observerDiary := d'
  ready := []

variable (config : Config)

theorem turns_opening : ∃ d d', Turns 3 (((firstStage now).tick 1).world config window)
    ((awaiting now window (.startingAt now) .fresh [.task ⟨0⟩] d d').world config window) :=
  ⟨_, _, .step rfl (turn_first rfl rfl rfl) <| .step rfl (turn_pair_idle rfl rfl) <|
    .step rfl (turn_observer_idle rfl rfl) <| .none _⟩

/-- The check of the first tick comes, and the observer writes that it was given up. -/
theorem turns_expiry (clock : Clock) (d d' : Diary) {progress : Progress} {until_ : Instant}
    (bell : progress = .fresh ∧ ((awaiting now window clock progress [.task ⟨0⟩] d d').world config
        window).wakeTime window = until_ ∨ progress = .sleeping until_)
    (due : until_ ≤ clock.mono) : ∃ d₁ d₁', Turns 5
      ((awaiting now window clock progress [.task ⟨0⟩] d d').world config window)
      ((expired now window clock clock.wall d₁ d₁').world config window) :=
  ⟨_, _, .step rfl (turn_rings rfl rfl rfl rfl bell due rfl rfl) <|
    .step rfl (turn_check rfl rfl rfl) <|
    .step rfl (turn_pair_idle rfl rfl) <|
    .step rfl (turn_report _ rfl rfl rfl rfl (wake_of_none rfl)) <|
    .step rfl (turn_observer_idle rfl rfl) <| .none _⟩

end First

/-! ### The second tick -/

section Second

variable (now : Wall) {window : Duration} (config : Config) {clock : Clock} {until_ : Instant}
  {ctx : Context} {late : Wall}

/-- The second tick is sent, and two tasks wait for what becomes of it. -/
def Stage.ask (s : Stage) (ctx : Context) : Stage :=
  ((s.tick 2).spawn (.waitFlag ⟨0⟩ Topic.pair ctx)).spawn (.waitFlag ⟨0⟩ Topic.pairTimeout ctx)

/-- Which of the two tasks found a report. -/
inductive Told (w : Stock) : String → Payload → Prop
  | pair {p : Payload} (found : w.report? ⟨1⟩ = some (.reply (.ok p))) : Told w Topic.pair p
  | timeout {p : Payload} (waiting : w.report? ⟨1⟩ = none)
      (found : w.report? ⟨2⟩ = some (.reply (.ok p))) : Told w Topic.pairTimeout p

theorem Told.reported {w : Stock} {topic : String} {p : Payload} (told : Told w topic p) :
    ∃ t ∈ [(⟨1⟩ : TaskId), ⟨2⟩], (w.report? t).isSome = true := by
  cases told with
  | pair found => exact ⟨⟨1⟩, by simp, by rw [found]; rfl⟩
  | timeout _ found => exact ⟨⟨2⟩, by simp, by rw [found]; rfl⟩

/-- A session came to rest and found a report, and nothing else was written. -/
structure Finds (w : Stock) (topic : String) (p : Payload) : Prop where
  rest : w.ready = []
  told : Told w topic p
  written : ∃ flags, w.scenes = ⟨#[⟨[(topic, p)], flags⟩]⟩

/-- What the observer writes of a pair. -/
def pairReport (now second : Wall) : Payload :=
  .mk 3 ((firstHit now).pairNotice second (some (.int 2))).entries

/-- Of three tasks just the second one wakes up. -/
theorem wake_second {w : Stock} {a b c : Task} (tasks : w.tasks = ⟨#[a, b, c]⟩)
    (first : w.isRipe a = false) (second : w.isRipe b = true) (third : w.isRipe c = false)
    (absent : .task ⟨1⟩ ∉ w.ready) : wake w = { w with ready := w.ready ++ [.task ⟨1⟩] } := by
  have ripe : w.tasks.handlesWhere w.isRipe = [⟨1⟩] := by
    rw [tasks]
    show List.filterMap _ [0, 1, 2] = _
    simp [first, second, third]
  exact (wake_of_one ripe).trans (if_neg absent)

/-- A wait for what is not there goes on as its context does. -/
theorem isRipe_waiting {w : Stock} {task : Task} {slot : Slot}
    (waiting : task.progress = .waiting slot ctx) (unset : w.slotReply? slot = none)
    (going : w.err? ctx = none) : w.isRipe task = false := by
  simp only [isRipe, waiting, waitResult?, unset, going]
  rfl

/-- A second tick in time makes a pair. -/
theorem turns_inTime (d d' : Diary) (until_ : Instant) (going : ctx.err? .empty clock.mono = none)
    (inTime : clock.mono.since .zero ≤ window.nanos) :
    ∃ w, Turns 8
        (((awaiting now window clock (.sleeping until_) [] d d').ask ctx).world config window) w ∧
      Finds w Topic.pair (pairReport now clock.wall) := by
  refine ⟨_, .step rfl (turn_second rfl rfl rfl inTime rfl rfl rfl) <|
    .step rfl (turn_pair_idle rfl rfl) <|
    .step rfl (turn_waits rfl rfl going rfl) <|
    .step rfl (turn_waits rfl rfl going rfl) <|
    .step rfl (turn_doomed rfl rfl rfl rfl rfl) <|
    .step rfl (turn_report [.cell ⟨1⟩, .task ⟨1⟩] rfl rfl rfl rfl ?_) <|
    .step rfl (turn_observer_idle rfl rfl) <|
    .step rfl (turn_answered rfl rfl rfl) <| .none _, rfl, .pair rfl, _, rfl⟩
  exact wake_second rfl rfl rfl (isRipe_waiting rfl rfl going) (of_decide_eq_false rfl)

/-- A second tick that comes late opens another hit, and the report on the first one is found. -/
theorem turns_late (d d' : Diary) (going : ctx.err? .empty clock.mono = none)
    (wakes : ((expired now window clock late d d').world config window).wakeTime window = until_)
    (later : ¬ until_ ≤ clock.mono) :
    ∃ w, Turns 5 (((expired now window clock late d d').ask ctx).world config window) w ∧
      Finds w Topic.pairTimeout (lateReport now late) :=
  ⟨_, .step rfl (turn_first rfl rfl rfl) <|
    .step rfl (turn_pair_idle rfl rfl) <|
    .step rfl (turn_waits rfl rfl going rfl) <|
    .step rfl (turn_finds rfl rfl going rfl) <|
    .step rfl (turn_asleep rfl rfl wakes later) <| .none _, rfl, .timeout rfl rfl, _, rfl⟩

/-- If the window is empty that hit is given up too, but its report is not written. -/
theorem turns_late_empty (d d' : Diary) (going : ctx.err? .empty clock.mono = none)
    (wakes : ((expired now window clock late d d').world config window).wakeTime window = until_)
    (due : until_ ≤ clock.mono) :
    ∃ w, Turns 9 (((expired now window clock late d d').ask ctx).world config window) w ∧
      Finds w Topic.pairTimeout (lateReport now late) :=
  ⟨_, .step rfl (turn_first rfl rfl rfl) <|
    .step rfl (turn_pair_idle rfl rfl) <|
    .step rfl (turn_waits rfl rfl going rfl) <|
    .step rfl (turn_finds rfl rfl going rfl) <|
    .step rfl (turn_rings rfl rfl rfl rfl (.inl ⟨rfl, wakes⟩) due rfl rfl) <|
    .step rfl (turn_check rfl rfl rfl) <|
    .step rfl (turn_pair_idle rfl rfl) <|
    .step rfl (turn_repeated rfl rfl rfl rfl) <|
    .step rfl (turn_observer_idle rfl rfl) <| .none _, rfl, .timeout rfl rfl, _, rfl⟩

end Second

/-! ### The gap between the ticks -/

section Gap

variable (now : Wall) (config : Config) {ms : UInt64}

/-- When the window of the first tick closes. -/
def closing (ms : UInt64) : Instant := ⟨ms.toNat * nanosPerMilli⟩

/-- The time of day at which the first tick is given up. -/
def givenUp (ms : UInt64) : Wall :=
  if ms.toNat = 0 then now else now.shift (ms.toNat * nanosPerMilli : Nat)

/-- The first tick waits, and its check sleeps until the window closes. -/
def resting (ms : UInt64) (clock : Clock) (d d' : Diary) : Stage :=
  awaiting now (.ofMillis ms) clock (.sleeping (closing ms)) [] d d'

theorem wakeTime_first {s : Stage} (begun : s.clock.mono = .zero) :
    (s.world config (.ofMillis ms)).wakeTime (.ofMillis ms) = closing ms := by
  have representable : Instant.zero.nanos + (Duration.ofMillis ms).nanos < Instant.bound := by
    have := ms.toNat_lt
    simp only [Instant.zero, Duration.ofMillis, Instant.bound, nanosPerSecond]
    omega
  show (s.clock.mono.add? _).getD _ = _
  rw [begun, Instant.add?, if_pos representable]
  exact congrArg Instant.mk (Nat.zero_add _)

/-- If the window is not empty, the first tick waits. -/
theorem settle_first (pos : 0 < ms.toNat) : ∃ d d',
    (((firstStage now).tick 1).world config (.ofMillis ms)).settle =
      (resting now ms (.startingAt now) d d').world config (.ofMillis ms) := by
  obtain ⟨d, d', opening⟩ := turns_opening now (.ofMillis ms) config
  have later : ¬ closing ms ≤ .zero := Nat.not_le.mpr (Nat.mul_pos pos (by decide))
  have asleep : Turns 1
      ((awaiting now (.ofMillis ms) (.startingAt now) .fresh [.task ⟨0⟩] d d').world config
        (.ofMillis ms))
      ((resting now ms (.startingAt now) d d').world config (.ofMillis ms)) :=
    .step rfl (turn_asleep rfl rfl (wakeTime_first config rfl) later) (.none _)
  exact ⟨d, d', (opening.trans asleep).settle rfl (Nat.le_add_right_of_le (by decide))⟩

/-- If it is empty, the first tick is given up at once. -/
theorem settle_first_empty (empty : ms.toNat = 0) : ∃ d d',
    (((firstStage now).tick 1).world config (.ofMillis ms)).settle =
      (expired now (.ofMillis ms) (.startingAt now) now d d').world config (.ofMillis ms) := by
  obtain ⟨d, d', opening⟩ := turns_opening now (.ofMillis ms) config
  have due : closing ms ≤ .zero := Nat.le_of_eq (by rw [closing, empty, Nat.zero_mul]; rfl)
  obtain ⟨d₁, d₁', expiry⟩ := turns_expiry now (.ofMillis ms) config (.startingAt now) d d'
    (.inl ⟨rfl, wakeTime_first config rfl⟩) due
  exact ⟨d₁, d₁', (opening.trans expiry).settle rfl (Nat.le_add_right_of_le (by decide))⟩

theorem nextTick?_resting (d d' : Diary) :
    ((resting now ms (.startingAt now) d d').world config (.ofMillis ms)).nextTick? =
      some (max 1 ms.toNat) := by
  have ticks : ((closing ms).since .zero + (nanosPerMilli - 1)) / nanosPerMilli = ms.toNat := by
    simp only [Instant.since, closing, Instant.zero, nanosPerMilli]
    omega
  exact (nextTick?_of_alone rfl rfl).trans (congrArg (some <| max 1 ·) ticks)

theorem nextTick?_expired (clock : Clock) (late : Wall) (d d' : Diary) :
    ((expired now (.ofMillis ms) clock late d d').world config (.ofMillis ms)).nextTick? = none :=
  rfl

theorem skip_expired (clock : Clock) (late : Wall) (d d' : Diary) (n : Nat) :
    ((expired now (.ofMillis ms) clock late d d').world config (.ofMillis ms)).skip n =
      (expired now (.ofMillis ms) (clock.advance (n * nanosPerMilli)) late d d').world config
        (.ofMillis ms) := rfl

/-- If the gap is over first, the first tick still waits. -/
theorem advance_inTime {gap : Nat} (inTime : gap < ms.toNat) : ∃ d d',
    (((firstStage now).tick 1).world config (.ofMillis ms)).advance gap =
      (resting now ms ((Clock.startingAt now).advance (gap * nanosPerMilli)) d d').world config
        (.ofMillis ms) := by
  obtain ⟨d, d', settled⟩ := settle_first now config (Nat.zero_lt_of_lt inTime)
  refine ⟨d, d', ?_⟩
  rw [advance, settled, elapse_of_still]
  · rfl
  · intro ticks next
    rw [nextTick?_resting] at next
    cases next
    exact Nat.lt_of_lt_of_le inTime (Nat.le_max_right ..)

/-- When its window closes, the first tick is given up. -/
theorem pass_window (pos : 0 < ms.toNat) (d d' : Diary) : ∃ d₁ d₁',
    ((resting now ms (.startingAt now) d d').world config (.ofMillis ms)).pass ms.toNat =
      (expired now (.ofMillis ms) ((Clock.startingAt now).advance (ms.toNat * nanosPerMilli))
        (givenUp now ms) d₁ d₁').world config (.ofMillis ms) := by
  set clock := (Clock.startingAt now).advance (ms.toNat * nanosPerMilli) with clock_def
  have due : closing ms ≤ clock.mono := Nat.le_of_eq (Nat.zero_add _).symm
  obtain ⟨d₁, d₁', expiry⟩ := turns_expiry now (.ofMillis ms) config clock d d' (.inr rfl) due
  have woken : wake ((resting now ms clock d d').world config (.ofMillis ms)) =
      (awaiting now (.ofMillis ms) clock (.sleeping (closing ms)) [.task ⟨0⟩] d d').world config
        (.ofMillis ms) :=
    wake_of_alone rfl (decide_eq_true due) List.not_mem_nil
  refine ⟨d₁, d₁', ?_⟩
  rw [givenUp, if_neg (Nat.ne_of_gt pos)]
  show settle (wake ((resting now ms clock d d').world config (.ofMillis ms))) = _
  rw [woken]
  exact expiry.settle rfl (Nat.le_add_right_of_le (by decide))

/-- If the window closes first, the first tick has been given up when the gap is over. -/
theorem advance_late {gap : Nat} (late : ms.toNat < gap) : ∃ clock d d',
    (((firstStage now).tick 1).world config (.ofMillis ms)).advance gap =
      (expired now (.ofMillis ms) clock (givenUp now ms) d d').world config (.ofMillis ms) ∧
    clock.mono.nanos = gap * nanosPerMilli := by
  by_cases empty : ms.toNat = 0
  · obtain ⟨d, d', settled⟩ := settle_first_empty now config empty
    refine ⟨(Clock.startingAt now).advance (gap * nanosPerMilli), d, d', ?_, Nat.zero_add _⟩
    rw [advance, settled, elapse_of_still, givenUp, if_pos empty]
    · exact skip_expired ..
    · rw [nextTick?_expired]
      nofun
  · have pos : 0 < ms.toNat := Nat.pos_of_ne_zero empty
    obtain ⟨d, d', settled⟩ := settle_first now config pos
    obtain ⟨d₁, d₁', passed⟩ := pass_window now config pos d d'
    obtain ⟨stops, rfl⟩ : ∃ stops, gap = stops + 1 := ⟨gap - 1, by omega⟩
    have next : ((resting now ms (.startingAt now) d d').world config (.ofMillis ms)).nextTick? =
        some (max 1 ms.toNat) := nextTick?_resting ..
    rw [Nat.max_eq_right pos] at next
    refine ⟨((Clock.startingAt now).advance (ms.toNat * nanosPerMilli)).advance
      ((stops + 1 - ms.toNat) * nanosPerMilli), d₁, d₁', ?_, ?_⟩
    · rw [advance, settled, elapse_of_due next (Nat.le_of_lt late), passed, elapse_of_still]
      · exact skip_expired ..
      · rw [nextTick?_expired]
        nofun
    · show 0 + ms.toNat * nanosPerMilli + (stops + 1 - ms.toNat) * nanosPerMilli = _
      rw [Nat.zero_add, ← Nat.add_mul, Nat.add_sub_cancel' (Nat.le_of_lt late)]

end Gap

/-! ### Whole sessions -/

section Whole

variable {config : Config} {now : Wall} {ms : UInt64}

/-- The bounds of the two waits of a session. -/
def askBounds (config : Config) (window : Duration) (now : Instant) : Context :=
  Context.background.withTimeout now (window.saturatingAdd config.requestTimeout)

theorem err?_askBounds (patient : 0 < ms.toNat + config.requestMs.toNat) (now : Instant) :
    (askBounds config (.ofMillis ms) now).err? .empty now = none := by
  have pos : 0 < (Duration.ofMillis ms).nanos + config.requestTimeout.nanos := by
    simp only [Config.requestTimeout, Duration.ofMillis]
    omega
  exact Context.err?_withTimeout (Duration.saturatingAdd_pos pos) now .empty

/-- A session answers what is found after the gap and the second tick. -/
theorem pair_of_advance {window : Duration} {gap n : Nat} {s : Stage} {w : Stock} {topic : String}
    {p : Payload} (one : s.tasks.next = ⟨1⟩) (later : ∀ task, (s.tasks.add task).next = ⟨2⟩)
    (advanced : (((firstStage now).tick 1).world config window).advance gap = s.world config window)
    (turns : Turns n ((s.ask (askBounds config window s.clock.mono)).world config window) w)
    (few : n ≤ patience) (finds : Finds w topic p) :
    pair (startingAt now) config window gap = .ok (pairAnswer w topic p, w) := by
  set ctx := askBounds config window s.clock.mono with ctx_def
  have opened : (startingAt now : Stock).openMesh config.id config.requestTimeout =
      (⟨0⟩, foyer now (pairMesh config [] []) [] []) := rfl
  have asked : ((s.tick 2).world config window).spawn (.waitFlag ⟨0⟩ Topic.pair ctx) =
      (⟨1⟩, ((s.tick 2).spawn (.waitFlag ⟨0⟩ Topic.pair ctx)).world config window) :=
    (spawn_waitFlag ..).trans (congrArg (·, _) one)
  have askedToo : (((s.tick 2).spawn (.waitFlag ⟨0⟩ Topic.pair ctx)).world config window).spawn
      (.waitFlag ⟨0⟩ Topic.pairTimeout ctx) = (⟨2⟩, (s.ask ctx).world config window) :=
    (spawn_waitFlag ..).trans (congrArg (·, _) (later _))
  have settled := turns.settle finds.rest (Nat.le_add_right_of_le few)
  obtain ⟨t, listed, reported⟩ := finds.told.reported
  have awaited : await [⟨1⟩, ⟨2⟩] stopLimit ((s.ask ctx).world config window) = w := by
    rw [← settled] at reported ⊢
    exact await_of_report listed reported 63
  have bounds : Context.background.withTimeout ((s.tick 2).world config window).now
      (window.saturatingAdd config.requestTimeout) = ctx := rfl
  unfold pair
  rw [opened]
  dsimp only
  rw [startCell_pair, ok_bind, startCell_observer, ok_bind, subscribe_observer]
  dsimp only
  rw [addScene_first]
  dsimp only
  rw [send_tick, ok_bind, advanced, send_tick, ok_bind, bounds, asked]
  dsimp only
  rw [askedToo, awaited]
  cases finds.told with
  | pair found =>
    rw [found]
    rfl
  | timeout waiting found =>
    dsimp only
    rw [waiting, found]
    rfl

/-- The answer if the second tick comes in time, at a time of day. -/
def pairedAnswer (now second : Wall) : Json :=
  .obj [
    ("payload", .obj [
      ("pair:first:data", .ofInt 1), ("pair:first:time", .str now.rfc3339),
      ("pair:second:data", .ofInt 2), ("pair:second:time", .str second.rfc3339)]),
    ("topic", .str "pair")]

/-- The answer if the first tick is given up. -/
def lateAnswer (now late : Wall) : Json :=
  .obj [
    ("payload", .obj [
      ("pair:first:data", .ofInt 1), ("pair:first:time", .str now.rfc3339),
      ("pair:timeout", .str late.rfc3339)]),
    ("topic", .str "pair:timeout")]

theorem pair_inTime (now : Wall) {gap : Nat} (patient : 0 < ms.toNat + config.requestMs.toNat)
    (inTime : gap < ms.toNat) : ∃ w p, Finds w Topic.pair p ∧
      pair (startingAt now) config (.ofMillis ms) gap =
        .ok (pairedAnswer now (now.shift (gap * nanosPerMilli : Nat)), w) := by
  obtain ⟨d, d', advanced⟩ := advance_inTime now config inTime
  have within : ((Clock.startingAt now).advance (gap * nanosPerMilli)).mono.since .zero ≤
      (Duration.ofMillis ms).nanos := by
    simp only [Clock.advance, Clock.startingAt, Instant.since, Instant.zero, Duration.ofMillis,
      nanosPerMilli]
    omega
  obtain ⟨w, turns, finds⟩ := turns_inTime now config d d' (closing ms)
    (err?_askBounds patient _) within
  exact ⟨w, _, finds, pair_of_advance rfl (fun _ => rfl) advanced turns (by decide) finds⟩

theorem pair_late (now : Wall) {gap : Nat} (patient : 0 < ms.toNat + config.requestMs.toNat)
    (late : ms.toNat < gap) (representable : gap < UInt64.size) : ∃ w p, Finds w Topic.pairTimeout p ∧
      pair (startingAt now) config (.ofMillis ms) gap = .ok (lateAnswer now (givenUp now ms), w) := by
  obtain ⟨clock, d, d', advanced, elapsed⟩ := advance_late now config late
  have going := err?_askBounds patient clock.mono
  by_cases empty : ms.toNat = 0
  · have due : ((expired now (.ofMillis ms) clock (givenUp now ms) d d').world config
        (.ofMillis ms)).wakeTime (.ofMillis ms) ≤ clock.mono := by
      have nothing : (Duration.ofMillis ms).nanos = 0 := by simp only [Duration.ofMillis, empty]
      have ends : clock.mono.nanos + (Duration.ofMillis ms).nanos < Instant.bound := by
        rw [nothing, elapsed]
        rw [UInt64.size] at representable
        simp only [Instant.bound, nanosPerMilli, nanosPerSecond]
        omega
      show (clock.mono.add? _).getD _ ≤ clock.mono
      rw [Instant.add?, if_pos ends, nothing]
      exact Nat.le_refl _
    obtain ⟨w, turns, finds⟩ := turns_late_empty now config d d' going rfl due
    exact ⟨w, _, finds, pair_of_advance rfl (fun _ => rfl) advanced turns (by decide) finds⟩
  · have later : ¬ ((expired now (.ofMillis ms) clock (givenUp now ms) d d').world config
        (.ofMillis ms)).wakeTime (.ofMillis ms) ≤ clock.mono :=
      not_wakeTime_le (Nat.mul_pos (Nat.pos_of_ne_zero empty) (by decide))
    obtain ⟨w, turns, finds⟩ := turns_late now config d d' going rfl later
    exact ⟨w, _, finds, pair_of_advance rfl (fun _ => rfl) advanced turns (by decide) finds⟩

/-- What is written on any scene at the end has the topic that was found. -/
theorem Finds.topic_eq {w : Stock} {topic : String} {p : Payload} (finds : Finds w topic p)
    {scene : SceneId} {key : String} {q : Payload}
    (written : Dict.get? (w.writtenOn scene) key = some q) : topic = key := by
  obtain ⟨flags, scenes⟩ := finds.written
  rw [writtenOn, scenes] at written
  obtain ⟨i⟩ := scene
  cases i with
  | zero =>
    by_contra other
    rw [show Dict.get? _ key = if topic = key then some p else none from rfl, if_neg other] at written
    cases written
  | succ i => cases written

/-- No moment before that has both a pair and a timeout on a scene. -/
theorem Finds.single {w : Stock} {topic : String} {p : Payload} (finds : Finds w topic p)
    {w₁ : Stock} (leads : Leads w₁ w) (scene : SceneId) :
    ¬ ((w₁.fetchAt scene Topic.pair).isSome ∧ (w₁.fetchAt scene Topic.pairTimeout).isSome) := by
  rintro ⟨pair, timeout⟩
  obtain ⟨log, stirs⟩ := leads
  obtain ⟨q, paired⟩ := Option.isSome_iff_exists.mp pair
  obtain ⟨r, late⟩ := Option.isSome_iff_exists.mp timeout
  have same := (finds.topic_eq (stirs.written_kept paired)).symm.trans
    (finds.topic_eq (stirs.written_kept late))
  exact absurd same (by decide)

/-- **A pair session answers by which of its gap and its window is longer.** Whatever both are, as long
as they differ and the window and the time for a request are not both zero, the session succeeds. If the
gap is shorter it answers with the pair of both ticks; if the window is shorter, with the timeout of the
first one, as given up when the window closed, and with nothing of the second. No world from the
beginning of the session to its end has both reports on a scene. -/
theorem pair_answers_by_gap (now : Wall) (config : Config) {gapMs : UInt64}
    {windowMs : Option UInt64} (apart : gapMs ≠ windowMs.getD config.windowMs)
    (patient : 0 < (windowMs.getD config.windowMs).toNat + config.requestMs.toNat) :
    ∃ w, perform now config (.pair gapMs windowMs) = .ok
        (if gapMs < windowMs.getD config.windowMs then
          pairedAnswer now (now.shift (gapMs.toNat * nanosPerMilli : Nat))
        else lateAnswer now (givenUp now (windowMs.getD config.windowMs)), w) ∧
      Leads (startingAt now) w ∧
      ∀ w₁, Leads w₁ w → ∀ scene,
        ¬ ((w₁.fetchAt scene Topic.pair).isSome ∧ (w₁.fetchAt scene Topic.pairTimeout).isSome) := by
  set ms := windowMs.getD config.windowMs with ms_def
  have performed : perform now config (.pair gapMs windowMs) =
      pair (startingAt now) config (.ofMillis ms) gapMs.toNat := by
    cases windowMs <;> rfl
  rw [performed]
  by_cases inTime : gapMs < ms
  · obtain ⟨w, p, finds, answered⟩ := pair_inTime now patient inTime
    rw [if_pos inTime]
    exact ⟨w, answered, leads_pair answered, fun w₁ leads => finds.single leads⟩
  · have late : ms.toNat < gapMs.toNat := by
      have different : gapMs.toNat ≠ ms.toNat := fun same => apart (UInt64.toNat_inj.mp same)
      have : ¬ gapMs.toNat < ms.toNat := inTime
      omega
    obtain ⟨w, p, finds, answered⟩ := pair_late now patient late gapMs.toNat_lt_size
    rw [if_neg inTime]
    exact ⟨w, answered, leads_pair answered, fun w₁ leads => finds.single leads⟩

/-- A long window, a short one and an empty one. -/
theorem pair_answers_by_gap_threeWindows :
    (∃ w, perform .newYear2024 {} (.pair 0 (some 2000)) =
      .ok (pairedAnswer .newYear2024 .newYear2024, w)) ∧
    (∃ w, perform .newYear2024 {} (.pair 100 (some 10)) =
      .ok (lateAnswer .newYear2024 ⟨1704067200, 10000000⟩, w)) ∧
    ∃ w, perform .newYear2024 {} (.pair 1 (some 0)) =
      .ok (lateAnswer .newYear2024 .newYear2024, w) := by
  obtain ⟨w₁, first, -⟩ := pair_answers_by_gap .newYear2024 {}
    (show (0 : UInt64) ≠ (some 2000).getD _ by decide) (by decide)
  obtain ⟨w₂, second, -⟩ := pair_answers_by_gap .newYear2024 {}
    (show (100 : UInt64) ≠ (some 10).getD _ by decide) (by decide)
  obtain ⟨w₃, third, -⟩ := pair_answers_by_gap .newYear2024 {}
    (show (1 : UInt64) ≠ (some 0).getD _ by decide) (by decide)
  rw [if_pos (by decide)] at first
  rw [if_neg (by decide)] at second third
  exact ⟨⟨w₁, first⟩, ⟨w₂, second⟩, w₃, third⟩

end Whole

end EventMesh.Cli
