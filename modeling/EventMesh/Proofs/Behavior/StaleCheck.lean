import EventMesh.Behavior.Actor
import EventMesh.Mesh.Trial
import EventMesh.Proofs.Behavior.PairMachine

/-!
# Stale checks

A check that was scheduled for a hit may be delivered when that hit has long been reported. It names
the hit by its time of day, so it resolves whatever hit of that time of day is open and changes
nothing otherwise. Main statement: so it is for every check that a detector on a bench ever
scheduled, after whatever trial (`check_inert_iff`); the check of a hit that is still open resolves
it.
-/

namespace EventMesh

open Time

/-- What a trial of a behavior may do. -/
inductive TrialMove where
  | send (e : Event)
  /-- Makes an event and sends it. -/
  | sendNew (topic : String) (values : Source) (scene : Option SceneId)
  | fireNext
  /-- Delivers a scheduled event, called off or not. -/
  | fireStale (n : Nat)
  /-- The clocks are read differently from now on: time goes by, or is set forward or back. -/
  | setClock (clock : Clock)
  /-- Emissions fail from now on, or do so no more. -/
  | reject (rejecting : Bool)
  | cancel (reminder : ReminderId)
  | clearRecords
  | takeEmitted

namespace World

variable {β : Type}

/-- What is scheduled on a bench. -/
def scheduledOn (w : World β) (bench : BenchId) : List Scheduled :=
  ((w.benches.get? bench).map (·.scheduled)).getD []

/-- The behavior on a bench. -/
def residentOn (w : World β) (bench : BenchId) : Option β :=
  (w.benches.get? bench).map (·.resident)

section Trial

variable [Behavior β]

/-- The world after a move of a trial. -/
def tryOut (bench : BenchId) (w : World β) : TrialMove → World β
  | .send e => (w.send bench e).2
  | .sendNew topic values scene =>
    let (e, w) := w.make (Event.make topic values scene w.clock.wall)
    (w.send bench e).2
  | .fireNext => (w.fireNext bench).2
  | .fireStale n => (w.fireStale bench n).2
  | .setClock clock => { w with clock }
  | .reject rejecting => w.modifyBench bench fun b => { b with rejecting }
  | .cancel reminder => w.cancelReminder reminder
  | .clearRecords => w.clearRecords bench
  | .takeEmitted => (w.takeEmitted bench).2

/-- The world after a trial. -/
def trial (w : World β) (bench : BenchId) (moves : List TrialMove) : World β :=
  moves.foldl (tryOut bench) w

/-- A delivery changes nothing but that it is recorded. -/
def Inert (w : World β) (bench : BenchId) (e : Event) : Prop :=
  w.send bench e =
    (.done, w.modifyBench bench fun b => { b with records := b.records ++ [(e.topic, .ok ())] })

end Trial

/-! ### What is scheduled -/

theorem get?_modifyBench (w : World β) (bench j : BenchId) (f : Bench β → Bench β) :
    (w.modifyBench bench f).benches.get? j =
      if bench = j then (w.benches.get? j).map f else w.benches.get? j :=
  Table.get?_modify _ _ _ _

theorem get?_emitAfter (w : World β) (bench : BenchId) (id : CellId) (delay : Duration)
    (e : Event) :
    (w.emitAfter (.bench bench id) delay e).2.benches.get? bench = (w.benches.get? bench).map
      fun b => { b with scheduled := b.scheduled ++ [⟨delay, e, w.reminders.next⟩] } := by
  unfold emitAfter
  exact (Table.get?_modify w.benches _ _ _).trans (if_pos rfl)

theorem residentOn_emitAfter (w : World β) (bench : BenchId) (id : CellId) (delay : Duration)
    (e : Event) : (w.emitAfter (.bench bench id) delay e).2.residentOn bench = w.residentOn bench := by
  rw [residentOn, get?_emitAfter, Option.map_map]
  rfl

/-- An event that is scheduled joins those on the bench, under a new reminder. -/
theorem mem_scheduledOn_emitAfter (w : World β) (bench : BenchId) (id : CellId) (delay : Duration)
    (e : Event) {c : Scheduled}
    (h : c ∈ (w.emitAfter (.bench bench id) delay e).2.scheduledOn bench) :
    c ∈ w.scheduledOn bench ∨ c = ⟨delay, e, w.reminders.next⟩ := by
  rw [scheduledOn, get?_emitAfter] at h
  unfold scheduledOn
  cases hb : w.benches.get? bench with
  | none => simp [hb] at h
  | some b =>
    simp only [hb, Option.map_some, Option.getD_some, List.mem_append, List.mem_singleton] at h ⊢
    exact h

/-- Nothing more is scheduled on a bench, no reminder is lost, and the behavior is the same. -/
structure Calm (bench : BenchId) (w w' : World β) : Prop where
  resident : w'.residentOn bench = w.residentOn bench
  scheduled : ∀ s ∈ w'.scheduledOn bench, s ∈ w.scheduledOn bench
  reminders : w.reminders.size ≤ w'.reminders.size

namespace Calm

variable {bench : BenchId} {w w₁ w₂ : World β}

theorem trans (h : Calm bench w w₁) (h' : Calm bench w₁ w₂) : Calm bench w w₂ :=
  ⟨h'.resident.trans h.resident, fun s hs => h.scheduled s (h'.scheduled s hs),
    Nat.le_trans h.reminders h'.reminders⟩

theorem of_eq (hb : w₁.benches = w.benches) (hr : w₁.reminders.size = w.reminders.size) :
    Calm bench w w₁ := by
  refine ⟨?_, ?_, Nat.le_of_eq hr.symm⟩
  · rw [residentOn, hb, residentOn]
  · rw [scheduledOn, hb, scheduledOn]
    exact fun s hs => hs

theorem modifyBench (w : World β) (bench : BenchId) {f : Bench β → Bench β}
    (resident : ∀ b, (f b).resident = b.resident)
    (scheduled : ∀ b, ∀ s ∈ (f b).scheduled, s ∈ b.scheduled) :
    Calm bench w (w.modifyBench bench f) := by
  refine ⟨?_, ?_, Nat.le_refl _⟩
  · unfold residentOn
    rw [get?_modifyBench, if_pos rfl]
    cases w.benches.get? bench with
    | none => rfl
    | some b => exact congrArg some (resident b)
  · intro s hs
    unfold scheduledOn at hs ⊢
    rw [get?_modifyBench, if_pos rfl] at hs
    cases hb : w.benches.get? bench with
    | none => simp [hb] at hs
    | some b =>
      rw [hb] at hs
      exact scheduled b s hs

theorem record (w : World β) (bench : BenchId) {f : Bench β → Bench β}
    (resident : ∀ b, (f b).resident = b.resident)
    (scheduled : ∀ b, ∀ s ∈ (f b).scheduled, s ∈ b.scheduled) :
    Calm bench w (w.record bench f).2 := by
  unfold World.record
  split
  · exact of_eq rfl rfl
  · exact modifyBench w bench resident scheduled

theorem cancelReminder (w : World β) (bench : BenchId) (r : ReminderId) :
    Calm bench w (w.cancelReminder r) := by
  rw [cancelReminder_eq]
  exact of_eq rfl (Table.size_modify _ _ _)

end Calm

end World

namespace PairMachine

open World

/-- Whether an event is the check of a hit of the given time of day. -/
structure IsCheck (e : Event) (time : Wall) : Prop where
  topic : e.topic = Topic.pairTimeoutCheck
  time : e.payload.getTime? Key.pairFirstTime = some time

section Detector

variable {γ : Type} (criterion : Criterion) (window : Duration) (bench : BenchId) (id : CellId)

/-! ### What a call of a detector does to its bench -/

/-- The world after a detector played a script. -/
def after (w : World (Resident γ)) (s : Script Pair) : World (Resident γ) :=
  (World.perform (s.map .pair) w).2.2

variable (w : World (Resident γ)) {p : Pair} {time : Wall}

theorem calm_report (hp : p.pending = some time) (ho : p.outlet = some (.bench bench id))
    (topic : String) (values : List (String × Value)) :
    Calm bench w (after w (p.report topic values)) := by
  unfold Pair.report
  rw [hp, ho]
  let made := w.make (Event.make topic (.pairs (((Key.pairFirstTime, .time time) ::
    (p.data.map fun d => (Key.pairFirstData, d)).toList) ++ values)) p.scene w.clock.wall)
  have making : Calm bench w made.2 := .of_eq rfl rfl
  have recorded : Calm bench made.2
      (made.2.record bench fun b => { b with emitted := b.emitted ++ [made.1] }).2 :=
    .record made.2 bench (fun _ => rfl) fun _ _ hs => hs
  exact making.trans recorded

theorem calm_check (hit : Hit) (e : Event) :
    Calm bench w (after w (((State.pending hit).pair criterion window (.bench bench id)).check e)) := by
  unfold Pair.check State.pair
  dsimp only
  split
  · exact calm_report bench id w rfl rfl _ _
  · exact Calm.of_eq rfl rfl

theorem calm_secondHit (hit : Hit) (data : Option Value) :
    Calm bench w
      (after w (((State.pending hit).pair criterion window (.bench bench id)).secondHit data)) := by
  let left : Pair := { (State.pending hit).pair criterion window (.bench bench id) with
    reminder := none }
  refine (Calm.cancelReminder w bench hit.reminder).trans ?_
  show Calm bench (w.cancelReminder hit.reminder) (after (w.cancelReminder hit.reminder)
    (if (w.cancelReminder hit.reminder).clock.mono.since hit.since > window.nanos then
      left.reportTimeout else left.reportPair data))
  split
  · exact calm_report bench id _ rfl rfl _ _
  · exact calm_report bench id _ rfl rfl _ _

/-- A call opens no hit and schedules nothing, or it opens one and schedules the check of it, under a
reminder that is new. -/
theorem after_process (s : State) (e : Event) :
    let w' := after w ((s.pair criterion window (.bench bench id)).process e)
    let s' := (step criterion window (.bench bench id) s (.ofCall (w, e))).1
    Calm bench w w' ∧ (s' = s ∨ s' = .idle) ∨
      ∃ hit check, s' = .pending hit ∧ hit.reminder = w.reminders.next ∧ IsCheck check hit.time ∧
        w'.residentOn bench = w.residentOn bench ∧ w'.reminders.size = w.reminders.size + 1 ∧
        ∀ c ∈ w'.scheduledOn bench,
          c ∈ w.scheduledOn bench ∨ c = ⟨window, check, w.reminders.next⟩ := by
  have nothing : Calm bench w w := .of_eq rfl rfl
  unfold step Pair.process Input.ofCall
  dsimp only
  split
  · cases s with
    | idle => exact Or.inl ⟨nothing, Or.inl rfl⟩
    | pending hit =>
      refine Or.inl ⟨calm_check criterion window bench id w hit e, ?_⟩
      by_cases named : e.payload.getTime? Key.pairFirstTime = some hit.time
      · exact Or.inr (by simp [named])
      · exact Or.inl (by simp [named])
  · have asked : (s.pair criterion window (.bench bench id)).criterion e
        (s.pair criterion window (.bench bench id)).data = criterion e s.data := by
      cases s <;> rfl
    rw [asked]
    cases criterion e s.data with
    | miss => exact Or.inl ⟨nothing, Or.inl rfl⟩
    | panicked p => exact Or.inl ⟨nothing, Or.inl rfl⟩
    | hit data =>
      cases s with
      | pending hit =>
        exact Or.inl ⟨calm_secondHit criterion window bench id w hit data, Or.inr rfl⟩
      | idle =>
        let made := w.make (Event.make Topic.pairTimeoutCheck
          (.pairs [(Key.pairFirstTime, .time w.clock.wall)]) none w.clock.wall)
        refine Or.inr ⟨_, made.1, rfl, rfl, ⟨rfl, rfl⟩, ?_, ?_, ?_⟩
        · exact residentOn_emitAfter made.2 bench id window made.1
        · exact Table.size_add w.reminders _
        · exact fun c hc => mem_scheduledOn_emitAfter made.2 bench id window made.1 hc

/-! ### Trials of a detector -/

variable [CustomBehavior γ]

/-- A delivery is a call, the note of what became of the detector, and perhaps a record. -/
theorem calm_send {w : World (Resident γ)} (hp : w.residentOn bench = some (.pair p)) (e : Event) :
    Calm bench ((after w (p.process e)).modifyBench bench fun b =>
      { b with resident := (w.handling (.pair p) e).1 }) (w.send bench e).2 := by
  obtain ⟨b, hb, resident⟩ := Option.map_eq_some_iff.mp hp
  have called : w.call bench (fun b => Behavior.process b.resident e) =
      ((World.perform (Behavior.process (Resident.pair p) e) w).2.1,
        (after w (p.process e)).modifyBench bench fun b =>
          { b with resident := (w.handling (.pair p) e).1 }) := by
    unfold World.call
    rw [hb]
    dsimp only
    rw [resident]
    rfl
  unfold World.send
  rw [called]
  dsimp only
  split
  · exact .of_eq rfl rfl
  · exact .modifyBench _ bench (fun _ => rfl) fun _ _ hs => hs

/-- What a check that was scheduled once says, as long as a detector is in a state. -/
def Issued (c : Scheduled) (w : World (Resident γ)) (s : State) : Prop :=
  ∃ time, IsCheck c.event time ∧ c.reminder.index < w.reminders.size ∧
    ∀ hit, s = .pending hit → hit.reminder = c.reminder → hit.time = time

/-- The detector on a bench is in a state of the machine, and what is scheduled, or was captured, are
checks of its hits. -/
structure Tried (captured : List Scheduled) (w : World (Resident γ)) (s : State) : Prop where
  resident : w.residentOn bench = some (.pair (s.pair criterion window (.bench bench id)))
  issued : ∀ c, c ∈ w.scheduledOn bench ∨ c ∈ captured → Issued c w s

variable {criterion window bench id} {captured : List Scheduled} {w w' : World (Resident γ)}
  {s : State}

omit [CustomBehavior γ] in
theorem Tried.calm (h : Tried criterion window bench id captured w s) (calm : Calm bench w w') :
    Tried criterion window bench id captured w' s := by
  refine ⟨calm.resident.trans h.resident, fun c hc => ?_⟩
  have before : c ∈ w.scheduledOn bench ∨ c ∈ captured := hc.imp_left (calm.scheduled c)
  obtain ⟨time, check, known, own⟩ := h.issued c before
  exact ⟨time, check, Nat.lt_of_lt_of_le known calm.reminders, own⟩

/-- **A delivery keeps what holds of a trial.** A hit that is opened gets a reminder that no check had
before. -/
theorem Tried.send (h : Tried criterion window bench id captured w s) (e : Event) :
    Tried criterion window bench id captured (w.send bench e).2
      (step criterion window (.bench bench id) s (.ofCall (w, e))).1 := by
  have becomes := (handling_refines w criterion window (.bench bench id) s e).1
  have sent := calm_send bench h.resident e
  rw [becomes] at sent
  have effect := after_process criterion window bench id w s e
  dsimp only at effect
  generalize after w ((s.pair criterion window (.bench bench id)).process e) = played at sent effect
  generalize (step criterion window (.bench bench id) s (.ofCall (w, e))).1 = s'
    at sent effect ⊢
  have kept : played.residentOn bench = w.residentOn bench := by
    rcases effect with ⟨calm, -⟩ | ⟨hit, check, -, -, -, resident, -⟩
    · exact calm.resident
    · exact resident
  obtain ⟨b, hb, -⟩ := Option.map_eq_some_iff.mp (kept.trans h.resident)
  let noted := played.modifyBench bench fun b =>
    { b with resident := .pair (s'.pair criterion window (.bench bench id)) }
  have resident : noted.residentOn bench =
      some (.pair (s'.pair criterion window (.bench bench id))) := by
    unfold residentOn
    rw [get?_modifyBench, if_pos rfl, hb]
    rfl
  have scheduled : noted.scheduledOn bench = played.scheduledOn bench := by
    unfold scheduledOn
    rw [get?_modifyBench, if_pos rfl, hb]
    rfl
  refine Tried.calm (w := noted) ⟨resident, fun c hc => ?_⟩ sent
  rw [scheduled] at hc
  rcases effect with ⟨calm, same | idle⟩ | ⟨hit, check, rfl, new, names, -, size, more⟩
  · obtain ⟨time, check, known, own⟩ := h.issued c (hc.imp_left (calm.scheduled c))
    exact ⟨time, check, Nat.lt_of_lt_of_le known calm.reminders, same ▸ own⟩
  · obtain ⟨time, check, known, -⟩ := h.issued c (hc.imp_left (calm.scheduled c))
    refine ⟨time, check, Nat.lt_of_lt_of_le known calm.reminders, ?_⟩
    rw [idle]
    nofun
  · have older : c ∈ w.scheduledOn bench ∨ c ∈ captured → Issued c noted (.pending hit) := by
      intro hold
      obtain ⟨time, check, known, -⟩ := h.issued c hold
      refine ⟨time, check, ?_, ?_⟩
      · show c.reminder.index < played.reminders.size
        omega
      · rintro _ ⟨⟩ same
        rw [← same, new] at known
        exact absurd known (Nat.lt_irrefl _)
    rcases hc with hc | hc
    · rcases more c hc with hold | rfl
      · exact older (Or.inl hold)
      · refine ⟨hit.time, names, ?_, ?_⟩
        · show w.reminders.size < played.reminders.size
          omega
        · rintro _ ⟨⟩ -
          rfl
    · exact older (Or.inr hc)

theorem Tried.tryOut (h : Tried criterion window bench id captured w s) (m : TrialMove) :
    ∃ s', Tried criterion window bench id captured (w.tryOut bench m) s' := by
  cases m with
  | send e => exact ⟨_, h.send e⟩
  | sendNew topic values scene =>
    have made : Calm bench w (w.make (Event.make topic values scene w.clock.wall)).2 :=
      .of_eq rfl rfl
    exact ⟨_, (h.calm made).send _⟩
  | fireNext =>
    unfold World.tryOut World.fireNext
    dsimp only
    split
    · exact ⟨s, h⟩
    · rename_i i c _
      have taken : Calm bench w
          (w.modifyBench bench fun b => { b with scheduled := b.scheduled.eraseIdx i }) :=
        .modifyBench w bench (fun _ => rfl) fun _ _ hs => List.mem_of_mem_eraseIdx hs
      exact ⟨_, (h.calm taken).send c.event⟩
  | fireStale n =>
    unfold World.tryOut World.fireStale
    dsimp only
    split
    · exact ⟨s, h⟩
    · exact ⟨_, h.send _⟩
  | setClock clock => exact ⟨s, h.calm (.of_eq rfl rfl)⟩
  | reject rejecting =>
    exact ⟨s, h.calm (.modifyBench w bench (fun _ => rfl) fun _ _ hs => hs)⟩
  | cancel reminder => exact ⟨s, h.calm (.cancelReminder w bench reminder)⟩
  | clearRecords => exact ⟨s, h.calm (.modifyBench w bench (fun _ => rfl) fun _ _ hs => hs)⟩
  | takeEmitted => exact ⟨s, h.calm (.modifyBench w bench (fun _ => rfl) fun _ _ hs => hs)⟩

/-- What holds of a trial holds to its end. -/
theorem Tried.trial (h : Tried criterion window bench id captured w s) (moves : List TrialMove) :
    ∃ s', Tried criterion window bench id captured (w.trial bench moves) s' := by
  induction moves generalizing w s with
  | nil => exact ⟨s, h⟩
  | cons m moves ih =>
    obtain ⟨s', h'⟩ := h.tryOut m
    exact ih h'

/-! ### Stale checks -/

variable (criterion window id) in
/-- A world with a detector on a new bench, after its first call. -/
def onTrial (w₀ : World (Resident γ)) : World (Resident γ) :=
  ((w₀.addBench id (.pair { criterion, window })).2.callInit w₀.benches.next).2

theorem onTrial_eq (w₀ : World (Resident γ)) : onTrial criterion window id w₀ =
    (w₀.addBench id (.pair { criterion, window })).2.modifyBench w₀.benches.next fun b =>
      { b with resident := .pair (State.idle.pair criterion window (.bench w₀.benches.next id)) } := by
  have on_bench : (w₀.addBench id (.pair { criterion, window })).2.benches.get? w₀.benches.next =
      some { id, resident := .pair { criterion, window } } := by
    show (w₀.benches.add _).get? w₀.benches.next = _
    rw [Table.get?_add, if_pos rfl]
  show ((w₀.addBench id (.pair { criterion, window })).2.call w₀.benches.next fun b =>
    Behavior.init b.resident (.bench w₀.benches.next b.id)).2 = _
  unfold World.call
  rw [on_bench]
  rfl

variable (criterion window id) in
/-- The bench of a detector after its first call. -/
theorem get?_onTrial (w₀ : World (Resident γ)) :
    (onTrial criterion window id w₀).benches.get? w₀.benches.next =
      some { id, resident := .pair (State.idle.pair criterion window (.bench w₀.benches.next id)) } := by
  rw [onTrial_eq, get?_modifyBench, if_pos rfl]
  show ((w₀.benches.add _).get? w₀.benches.next).map _ = _
  rw [Table.get?_add, if_pos rfl]
  rfl

theorem tried_onTrial (w₀ : World (Resident γ)) :
    Tried criterion window w₀.benches.next id [] (onTrial criterion window id w₀) .idle := by
  have found := get?_onTrial criterion window id w₀
  constructor
  · rw [residentOn, found]
    rfl
  · intro c hc
    rw [scheduledOn, found] at hc
    rcases hc with hc | hc
    · cases hc
    · cases hc

/-- A check that names no open hit changes nothing. -/
theorem Tried.inert (h : Tried criterion window bench id captured w s) {e : Event} {time : Wall}
    (check : IsCheck e time) (other : ∀ hit, s = .pending hit → hit.time ≠ time) :
    w.Inert bench e := by
  obtain ⟨b, hb, resident⟩ := Option.map_eq_some_iff.mp h.resident
  have script : (s.pair criterion window (.bench bench id)).process e =
      .finish (s.pair criterion window (.bench bench id)) .done := by
    unfold Pair.process
    rw [if_pos check.topic]
    cases s with
    | idle => rfl
    | pending hit =>
      show (if e.payload.getTime? Key.pairFirstTime = some hit.time then _ else _) = _
      rw [check.time, if_neg]
      intro same
      exact other hit rfl (Option.some.inj same).symm
  have unchanged : (w.modifyBench bench fun b =>
      { b with resident := .pair (s.pair criterion window (.bench bench id)) }) = w := by
    unfold modifyBench
    rw [Table.modify_congr hb (g := fun b => b) (by rw [← resident]), Table.modify_id]
  have performed : World.perform (Behavior.process
      (Resident.pair (s.pair criterion window (.bench bench id))) e) w =
        (.pair (s.pair criterion window (.bench bench id)), .done, w) := by
    show World.perform (((s.pair criterion window (.bench bench id)).process e).map .pair) w = _
    rw [script]
    rfl
  have called : w.call bench (fun b => Behavior.process b.resident e) = (.done, w) := by
    unfold World.call
    rw [hb]
    dsimp only
    rw [resident, performed]
    exact congrArg _ unchanged
  unfold World.Inert World.send
  rw [called]
  rfl

/-- A check that names the open hit resolves it as a timeout. -/
theorem Tried.resolves {hit : Hit} (h : Tried criterion window bench id captured w (.pending hit))
    {e : Event} (check : IsCheck e hit.time) :
    (w.send bench e).2.residentOn bench =
        some (.pair (State.idle.pair criterion window (.bench bench id))) ∧
      (w.handling (.pair ((State.pending hit).pair criterion window (.bench bench id))) e).2.map
        (·.map Event.notice) = [.emit (.bench bench id) (hit.timeoutNotice w.clock.wall)] := by
  have resolved : step criterion window (.bench bench id) (.pending hit) (.ofCall (w, e)) =
      (.idle, [.emit (.bench bench id) (hit.timeoutNotice w.clock.wall)]) := by
    simp [step, Input.ofCall, check.topic, check.time]
  have sent := (h.send e).resident
  have tried := (handling_refines w criterion window (.bench bench id) (.pending hit) e).2
  rw [resolved] at sent tried
  exact ⟨sent, tried⟩

variable (criterion window id) in
/-- **A stale check changes nothing, unless the open hit has the same time of day.** Whatever check a
detector on a bench scheduled in a trial, it may be delivered at any later time of the trial. The
check of the hit that is open then names its time. If the check names the time of no open hit,
delivering it changes nothing at all; if it names the time of the open hit, be it another hit than
its own, that hit is reported as a timeout. -/
theorem check_inert_iff (w₀ : World (Resident γ)) (first second : List TrialMove) {c : Scheduled}
    (captured : c ∈ ((onTrial criterion window id w₀).trial w₀.benches.next first).scheduledOn
      w₀.benches.next) :
    let bench := w₀.benches.next
    let w := (onTrial criterion window id w₀).trial bench (first ++ second)
    ∃ (s : State) (time : Wall),
      w.residentOn bench = some (.pair (s.pair criterion window (.bench bench id))) ∧
      IsCheck c.event time ∧
      (∀ hit, s = .pending hit → hit.reminder = c.reminder → hit.time = time) ∧
      (w.Inert bench c.event ↔ ∀ hit, s = .pending hit → hit.time ≠ time) ∧
      ∀ hit, s = .pending hit → hit.time = time →
        (w.send bench c.event).2.residentOn bench =
            some (.pair (State.idle.pair criterion window (.bench bench id))) ∧
          (w.handling (.pair (s.pair criterion window (.bench bench id))) c.event).2.map
            (·.map Event.notice) = [.emit (.bench bench id) (hit.timeoutNotice w.clock.wall)] := by
  intro bench w
  have start : Tried criterion window bench id [] (onTrial criterion window id w₀) .idle :=
    tried_onTrial w₀
  obtain ⟨s₁, h₁⟩ := start.trial first
  have known : Tried criterion window bench id [c]
      ((onTrial criterion window id w₀).trial bench first) s₁ := by
    refine ⟨h₁.resident, fun d hd => ?_⟩
    rcases hd with hd | hd
    · exact h₁.issued d (Or.inl hd)
    · rw [List.mem_singleton.mp hd]
      exact h₁.issued c (Or.inl captured)
  obtain ⟨s, h⟩ := known.trial second
  have again : ((onTrial criterion window id w₀).trial bench first).trial bench second = w :=
    List.foldl_append.symm
  rw [again] at h
  obtain ⟨time, check, -, own⟩ := h.issued c (Or.inr (List.mem_singleton_self c))
  refine ⟨s, time, h.resident, check, own, ⟨?_, h.inert check⟩, ?_⟩
  · rintro inert hit rfl rfl
    have idle := (h.resolves check).1
    have pending : (w.send bench c.event).2.residentOn bench = w.residentOn bench := by
      have recorded : Calm bench w (w.modifyBench bench fun b =>
          { b with records := b.records ++ [(c.event.topic, .ok ())] }) :=
        .modifyBench w bench (fun _ => rfl) fun _ _ hs => hs
      rw [show w.send bench c.event = _ from inert]
      exact recorded.resident
    rw [pending, h.resident] at idle
    injection idle with same
    injection same with fields
    exact absurd (congrArg Pair.pending fields) nofun
  · rintro hit rfl rfl
    exact h.resolves check

end Detector

/-! ### Hits at one instant -/

/-- A trial of a detector to which every event is a hit, with so many events at one instant. -/
def atOneInstant (hits : Nat) : World (Resident Actor) :=
  (onTrial .always (.ofMillis 10) ⟨"p"⟩ (startingAt ⟨0, 0⟩)).trial ⟨0⟩
    (List.replicate hits (.sendNew "m" .empty none))

/-- **The check of a hit that was reported may resolve a later hit.** Of three hits at one instant the
first two are a pair; the check of the first then resolves the third. -/
theorem check_of_reported_hit_resolves_later_hit :
    ∃ c hit, (atOneInstant 1).scheduledOn ⟨0⟩ = [c] ∧
      (atOneInstant 3).residentOn ⟨0⟩ = some (.pair
        ((State.pending hit).pair .always (.ofMillis 10) (.bench ⟨0⟩ ⟨"p"⟩))) ∧
      hit.reminder ≠ c.reminder ∧
      ((atOneInstant 3).benches.get? ⟨0⟩).map (·.emitted.length) = some 1 ∧
      ((atOneInstant 3).send ⟨0⟩ c.event).2.residentOn ⟨0⟩ = some (.pair
        (State.idle.pair .always (.ofMillis 10) (.bench ⟨0⟩ ⟨"p"⟩))) ∧
      (((atOneInstant 3).send ⟨0⟩ c.event).2.benches.get? ⟨0⟩).map (·.emitted.length) = some 2 :=
  ⟨_, ⟨⟨0, 0⟩, ⟨0⟩, none, none, ⟨1⟩⟩, rfl, rfl, by decide, rfl, rfl, rfl⟩

/-- The check of the first of two hits at one instant is inert, that of the first of three is not. -/
theorem check_inert_iff_at_one_instant : ∃ c, (atOneInstant 1).scheduledOn ⟨0⟩ = [c] ∧
    (atOneInstant 2).Inert ⟨0⟩ c.event ∧ ¬ (atOneInstant 3).Inert ⟨0⟩ c.event := by
  have listed : ∃ c, (atOneInstant 1).scheduledOn ⟨0⟩ = [c] := ⟨_, rfl⟩
  obtain ⟨c, hc⟩ := listed
  have captured : c ∈ (atOneInstant 1).scheduledOn ⟨0⟩ := by
    rw [hc]
    exact List.mem_singleton_self c
  have dated : ((atOneInstant 1).scheduledOn ⟨0⟩).map
      (·.event.payload.getTime? Key.pairFirstTime) = [some ⟨0, 0⟩] := rfl
  rw [hc] at dated
  have later := check_inert_iff .always (.ofMillis 10) ⟨"p"⟩
    (startingAt ⟨0, 0⟩ : World (Resident Actor)) [.sendNew "m" .empty none]
  refine ⟨c, hc, ?_, ?_⟩
  · obtain ⟨s, time, resident, -, -, inert_iff, -⟩ := later [.sendNew "m" .empty none] captured
    refine inert_iff.mpr ?_
    rintro hit rfl
    injection resident with same
    injection same with fields
    exact absurd (congrArg Pair.pending fields) nofun
  · obtain ⟨s, time, resident, check, -, inert_iff, -⟩ := later
      [.sendNew "m" .empty none, .sendNew "m" .empty none] captured
    intro inert
    injection resident with same
    injection same with fields
    cases s with
    | idle => exact absurd (congrArg Pair.pending fields) nofun
    | pending hit =>
      have open_time : some ⟨0, 0⟩ = some hit.time := congrArg Pair.pending fields
      have check_time : some ⟨0, 0⟩ = some time := by
        rw [← check.time]
        exact (List.cons.inj dated).1.symm
      refine inert_iff.mp inert hit rfl ?_
      exact (Option.some.inj open_time).symm.trans (Option.some.inj check_time)

end PairMachine

end EventMesh
