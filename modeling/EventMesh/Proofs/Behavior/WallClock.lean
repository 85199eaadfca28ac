import EventMesh.Proofs.Behavior.Bench
import Mathlib.Data.List.Forall2

/-!
# The time of day decides nothing

A detector of pairs reads the time of day, and even finds the hit of a check by it. Still, what it
reports does not depend on the time of day: on a bench the only check that can be fired is that of
the open hit (`Attended`), so a check that is fired always finds its own hit, however the readings
repeat or run backward. Main statement: two trials that deliver and fire in the same order at the
same readings of the running clock, whatever the time of day in each, come to the same decisions
(`wall_clock_decides_nothing`).
-/

namespace EventMesh

open Time

/-- The keys under which reports give times of day. -/
def timeKeys : List String := [Key.pairFirstTime, Key.pairSecondTime, Key.pairTimeout]

/-- What an event says but for the times of day that it reports. -/
def Notice.timeless (n : Notice) : Notice :=
  { n with entries := n.entries.map fun (key, v) =>
      if key ∈ timeKeys then (key, .time ⟨0, 0⟩) else (key, v) }

/-- What can be fired is found where it stands, and the rest remains. -/
theorem findIdx?_of_filter {α : Type} {p : α → Bool} {l : List α} {a : α} {rest : List α}
    (h : l.filter p = a :: rest) :
    ∃ i, l.findIdx? p = some i ∧ l[i]? = some a ∧ (l.eraseIdx i).filter p = rest := by
  induction l with
  | nil => cases h
  | cons x xs ih =>
    by_cases hx : p x = true
    · rw [List.filter_cons_of_pos hx] at h
      obtain ⟨rfl, rfl⟩ := List.cons.inj h
      exact ⟨0, by simp [List.findIdx?_cons, hx], rfl, rfl⟩
    · rw [List.filter_cons_of_neg hx] at h
      obtain ⟨i, at_, found, left⟩ := ih h
      refine ⟨i + 1, by simp [List.findIdx?_cons, hx, at_], found, ?_⟩
      rw [List.eraseIdx_cons_succ, List.filter_cons_of_neg hx, left]

namespace PairMachine

open World

/-! ### The machine -/

section Machine

variable (criterion : Criterion) (window : Duration) (outlet : Outlet)

/-- Nothing is open, or hits that differ in their time of day and their reminder only. -/
inductive State.Alike : State → State → Prop
  | idle : Alike .idle .idle
  | pending {hit hit' : Hit} (since : hit'.since = hit.since) (data : hit'.data = hit.data)
      (scene : hit'.scene = hit.scene) : Alike (.pending hit) (.pending hit')

theorem State.Alike.data {s s' : State} (h : s.Alike s') : s'.data = s.data := by
  cases h with
  | idle => rfl
  | pending _ data _ => exact data

/-- The reports among attempts, but for the times of day. -/
def reports (tried : List (Attempt Notice)) : List Notice :=
  (tried.filterMap Attempt.emitted?).map Notice.timeless

theorem timeless_pairNotice {hit hit' : Hit} (data : hit'.data = hit.data)
    (scene : hit'.scene = hit.scene) (now now' : Wall) (second : Option Value) :
    (hit'.pairNotice now' second).timeless = (hit.pairNotice now second).timeless := by
  unfold Hit.pairNotice Notice.timeless
  rw [data, scene]
  cases hit.data <;> cases second <;> rfl

theorem timeless_timeoutNotice {hit hit' : Hit} (data : hit'.data = hit.data)
    (scene : hit'.scene = hit.scene) (now now' : Wall) :
    (hit'.timeoutNotice now').timeless = (hit.timeoutNotice now).timeless := by
  unfold Hit.timeoutNotice Notice.timeless
  rw [data, scene]
  cases hit.data <;> rfl

/-- A call with anything but a check changes nothing, opens a hit and schedules its check, or closes
the open hit with a report and calls its check off. -/
theorem step_cases (s : State) {i : Input} (plain : i.event.topic ≠ Topic.pairTimeoutCheck) :
    step criterion window outlet s i = (s, []) ∨
      (∃ data, s = .idle ∧ step criterion window outlet s i =
        (.pending ⟨i.clock.wall, i.clock.mono, data, i.event.scene, i.fresh⟩,
          [.schedule outlet window (checkNotice i.clock.wall) i.fresh])) ∨
      ∃ hit n, s = .pending hit ∧
        step criterion window outlet s i = (.idle, [.cancel hit.reminder, .emit outlet n]) := by
  unfold step
  rw [if_neg plain]
  cases criterion i.event s.data with
  | miss => exact Or.inl rfl
  | panicked p => exact Or.inl rfl
  | hit data =>
    cases s with
    | idle => exact Or.inr (Or.inl ⟨data, rfl, rfl⟩)
    | pending hit => exact Or.inr (Or.inr ⟨hit, _, rfl, rfl⟩)

theorem step_check {hit : Hit} {i : Input} (check : IsCheck i.event hit.time) :
    step criterion window outlet (.pending hit) i =
      (.idle, [.emit outlet (hit.timeoutNotice i.clock.wall)]) := by
  simp [step, check.topic, check.time]

/-- **Calls at one reading of the running clock come to the same**, whatever the time of day. -/
theorem step_alike {s s' : State} (h : s.Alike s') (i i' : Input)
    (mono : i'.clock.mono = i.clock.mono) (plain : i.event.topic ≠ Topic.pairTimeoutCheck)
    (plain' : i'.event.topic ≠ Topic.pairTimeoutCheck)
    (agree : ∀ data, criterion i'.event data = criterion i.event data)
    (scene : i'.event.scene = i.event.scene) (outlet' : Outlet) :
    (step criterion window outlet s i).1.Alike (step criterion window outlet' s' i').1 ∧
      reports (step criterion window outlet' s' i').2 =
        reports (step criterion window outlet s i).2 := by
  unfold step
  rw [if_neg plain, if_neg plain', agree, h.data]
  cases criterion i.event s.data with
  | miss => cases h with
    | idle => exact ⟨.idle, rfl⟩
    | pending since data scene => exact ⟨.pending since data scene, rfl⟩
  | panicked p => cases h with
    | idle => exact ⟨.idle, rfl⟩
    | pending since data scene => exact ⟨.pending since data scene, rfl⟩
  | hit data => cases h with
    | idle => exact ⟨.pending mono rfl scene, rfl⟩
    | pending since same_data same_scene =>
      refine ⟨.idle, ?_⟩
      dsimp only
      rw [mono, since]
      split
      · exact congrArg (fun n => [n]) (timeless_pairNotice same_data same_scene _ _ data)
      · exact congrArg (fun n => [n]) (timeless_timeoutNotice same_data same_scene _ _)

end Machine

/-! ### One trial -/

section Trial

variable {γ : Type} (criterion : Criterion) (window : Duration) (bench : BenchId) (id : CellId)

theorem keepsTo_report {p : Pair} (ho : p.outlet = some (.bench bench id)) (topic : String)
    (values : List (String × Value)) : (p.report topic values).KeepsTo bench := by
  unfold Pair.report
  rw [ho]
  cases p.pending with
  | none => trivial
  | some time => exact fun e => ⟨⟨id, rfl⟩, fun r => trivial⟩

/-- A detector on a bench keeps to it. -/
theorem keepsTo_process (s : State) (e : Event) :
    ((s.pair criterion window (.bench bench id)).process e).KeepsTo bench := by
  unfold Pair.process
  split
  · unfold Pair.check
    cases s with
    | idle => trivial
    | pending hit =>
      dsimp only [State.pair]
      split
      · exact fun survey => keepsTo_report bench id rfl _ _
      · trivial
  · cases (s.pair criterion window (.bench bench id)).criterion e
      (s.pair criterion window (.bench bench id)).data with
    | miss => trivial
    | panicked p => trivial
    | hit data =>
      cases s with
      | idle => exact fun survey check => ⟨⟨id, rfl⟩, fun reminder => trivial⟩
      | pending hit =>
        intro survey
        dsimp only
        split
        · exact fun survey => keepsTo_report bench id rfl _ _
        · exact fun survey => keepsTo_report bench id rfl _ _

/-- Nothing can be fired while no hit is open, and only the check of the hit that is. -/
def State.Awaits (s : State) (live : List Scheduled) : Prop :=
  match s with
  | .idle => live = []
  | .pending hit => ∃ c, live = [c] ∧ c.reminder = hit.reminder ∧ IsCheck c.event hit.time

/-- A detector on a bench is in a state of the machine, and what can be fired belongs to it. -/
structure Attended (w : World (Resident γ)) (b : Bench (Resident γ)) (s : State) : Prop where
  found : w.benches.get? bench = some b
  resident : b.resident = .pair (s.pair criterion window (.bench bench id))
  known : ∀ c ∈ b.scheduled, c.reminder.index < w.reminders.size
  live : s.Awaits (w.pendingOf b)

/-- A bench after attempts that report, without the times of day. -/
structure Reported (b b' : Bench (Resident γ)) (tried : List (Attempt Notice)) : Prop where
  rejecting : b'.rejecting = b.rejecting
  emitted : b'.emitted.map (·.notice.timeless) =
    b.emitted.map (·.notice.timeless) ++ if b.rejecting then [] else reports tried

variable {criterion window bench id} [CustomBehavior γ] {w : World (Resident γ)}
  {b : Bench (Resident γ)} {s : State}

/-- A delivery to a detector, as a call of the machine. -/
theorem delivered (found : w.benches.get? bench = some b)
    (resident : b.resident = .pair (s.pair criterion window (.bench bench id))) (e : Event) :
    ∃ b' tried, Sent bench w (w.send bench e).2 b b' tried
        (.pair ((step criterion window (.bench bench id) s (.ofCall (w, e))).1.pair criterion window
          (.bench bench id))) ∧
      tried.map (·.map Event.notice) =
        (step criterion window (.bench bench id) s (.ofCall (w, e))).2 ∧
      Reported b b' (step criterion window (.bench bench id) s (.ofCall (w, e))).2 := by
  have keeps : (Behavior.process b.resident e).KeepsTo bench := by
    rw [resident]
    exact Script.keepsTo_map.mpr (keepsTo_process criterion window bench id s e)
  obtain ⟨becomes, tried⟩ := handling_refines w criterion window (.bench bench id) s e
  obtain ⟨b', sent⟩ := sent_send found keeps
  rw [resident, becomes] at sent
  refine ⟨b', _, sent, tried, sent.rejecting, ?_⟩
  rw [sent.emitted, ← tried, reports, Attempt.filterMap_emitted?_map, List.map_append, List.map_map]
  cases b.rejecting <;> rfl

omit [CustomBehavior γ] in
theorem isCheck_of_notice {e : Event} {time : Wall} (h : e.notice = checkNotice time) :
    IsCheck e time := by
  have entries : e.payload.entries = [(Key.pairFirstTime, .time time)] := congrArg Notice.entries h
  refine ⟨congrArg Notice.topic h, ?_⟩
  rw [Payload.getTime?, Payload.get?, entries]
  rfl

/-- **A delivery of anything but a check keeps what can be fired to the open hit.** -/
theorem Attended.send (h : Attended criterion window bench id w b s) {e : Event}
    (plain : e.topic ≠ Topic.pairTimeoutCheck) :
    ∃ b', Attended criterion window bench id (w.send bench e).2 b'
        (step criterion window (.bench bench id) s (.ofCall (w, e))).1 ∧
      Reported b b' (step criterion window (.bench bench id) s (.ofCall (w, e))).2 ∧
      (w.send bench e).2.clock = w.clock := by
  obtain ⟨b', tried, sent, noticed, reported⟩ := delivered h.found h.resident e
  refine ⟨b', ⟨sent.found, sent.resident, ?_, ?_⟩, reported, sent.clock⟩
  · intro c hc
    rw [sent.scheduled, List.mem_append] at hc
    rcases hc with hc | hc
    · exact Nat.lt_of_lt_of_le (h.known c hc) sent.grows
    · exact sent.known c hc
  · have live := h.live
    rcases step_cases criterion window (.bench bench id) s (i := .ofCall (w, e)) plain with
      same | ⟨data, rfl, opens⟩ | ⟨hit, n, rfl, closes⟩
    · rw [same] at noticed ⊢
      obtain rfl := List.map_eq_nil_iff.mp noticed
      have kept : (w.pendingOf b).filter
          (fun c => !([] : List (Attempt Event)).any (·.callsOff c.reminder)) = w.pendingOf b :=
        List.filter_eq_self.mpr fun _ _ => rfl
      rw [sent.pendingOf h.known nofun, kept, List.filterMap_nil, List.append_nil]
      exact live
    · rw [opens] at noticed ⊢
      obtain ⟨a, rfl, schedules⟩ := List.map_eq_singleton_iff.mp noticed
      obtain ⟨check, rfl, told⟩ := Attempt.map_eq_schedule schedules
      have lasting : (w.send bench e).2.isCancelled w.reminders.next = false := by
        refine Bool.eq_false_iff.mpr fun cancelled => ?_
        cases sent.fresh (Nat.le_refl _) cancelled
      rw [sent.pendingOf h.known fun c hc => by rw [List.mem_singleton.mp hc]; exact lasting]
      rw [show w.pendingOf b = [] from live]
      exact ⟨_, rfl, rfl, isCheck_of_notice told⟩
    · rw [closes] at noticed ⊢
      obtain ⟨a, rest, rfl, cancels, noticed⟩ := List.map_eq_cons_iff.mp noticed
      obtain ⟨a', rfl, emits⟩ := List.map_eq_singleton_iff.mp noticed
      obtain rfl := Attempt.map_eq_cancel cancels
      obtain ⟨report, rfl, -⟩ := Attempt.map_eq_emit emits
      obtain ⟨c, only, own, -⟩ := live
      rw [sent.pendingOf h.known nofun, only]
      simp [Attempt.callsOff, own, State.Awaits, Attempt.scheduled?]

/-- Without an open hit nothing is fired. -/
theorem Attended.fireNext_idle (h : Attended criterion window bench id w b .idle) :
    w.fireNext bench = (none, w) := by
  have none_live : b.scheduled.findIdx? (!w.isCancelled ·.reminder) = none := by
    rw [List.findIdx?_eq_none_iff]
    exact fun c hc => by simpa using List.filter_eq_nil_iff.mp h.live c hc
  unfold World.fireNext
  rw [h.found]
  simp [none_live]

/-- **What is fired is the check of the open hit**, which is closed with a report. -/
theorem Attended.fireNext_pending {hit : Hit}
    (h : Attended criterion window bench id w b (.pending hit)) :
    ∃ b', Attended criterion window bench id (w.fireNext bench).2 b' .idle ∧
      Reported b b' [.emit (.bench bench id) (hit.timeoutNotice w.clock.wall)] ∧
      (w.fireNext bench).2.clock = w.clock := by
  obtain ⟨c, only, -, check⟩ := h.live
  obtain ⟨i, at_, found, left⟩ := findIdx?_of_filter only
  set taken := w.modifyBench bench fun b => { b with scheduled := b.scheduled.eraseIdx i }
    with taken_def
  have fires : (w.fireNext bench).2 = (taken.send bench c.event).2 := by
    unfold World.fireNext
    rw [h.found]
    simp [at_, found, taken_def]
  have on_bench : taken.benches.get? bench =
      some { b with scheduled := b.scheduled.eraseIdx i } := by
    rw [taken_def, get?_modifyBench, if_pos rfl, h.found]
    rfl
  obtain ⟨b', tried, sent, noticed, reported⟩ :=
    delivered (s := .pending hit) on_bench h.resident c.event
  rw [step_check criterion window (.bench bench id) check] at sent noticed reported
  obtain ⟨a, rfl, emits⟩ := List.map_eq_singleton_iff.mp noticed
  obtain ⟨report, rfl, -⟩ := Attempt.map_eq_emit emits
  have known : ∀ d ∈ b.scheduled.eraseIdx i, d.reminder.index < taken.reminders.size :=
    fun d hd => h.known d (List.mem_of_mem_eraseIdx hd)
  rw [fires]
  refine ⟨b', ⟨sent.found, sent.resident, ?_, ?_⟩, ⟨reported.rejecting, reported.emitted⟩, sent.clock⟩
  · intro d hd
    rw [sent.scheduled, List.mem_append] at hd
    rcases hd with hd | hd
    · exact Nat.lt_of_lt_of_le (known d hd) sent.grows
    · exact sent.known d hd
  · show (taken.send bench c.event).2.pendingOf b' = []
    rw [sent.pendingOf known nofun]
    have none_left : taken.pendingOf { b with scheduled := b.scheduled.eraseIdx i } = [] := left
    rw [none_left]
    rfl

omit [CustomBehavior γ] in
/-- A change of other things leaves what can be fired. -/
theorem Attended.of_eq (h : Attended criterion window bench id w b s) {w' : World (Resident γ)}
    (hb : w'.benches = w.benches) (hr : w'.reminders = w.reminders) :
    Attended criterion window bench id w' b s := by
  refine ⟨by rw [hb, h.found], h.resident, by rw [hr]; exact h.known, ?_⟩
  have same (r : ReminderId) : w'.isCancelled r = w.isCancelled r := by
    rw [isCancelled, hr, isCancelled]
  simp only [World.pendingOf, same]
  exact h.live

omit [CustomBehavior γ] in
theorem Attended.modifyBench (h : Attended criterion window bench id w b s)
    {f : Bench (Resident γ) → Bench (Resident γ)} (resident : (f b).resident = b.resident)
    (scheduled : (f b).scheduled = b.scheduled) :
    Attended criterion window bench id (w.modifyBench bench f) (f b) s := by
  refine ⟨?_, resident.trans h.resident, ?_, ?_⟩
  · rw [get?_modifyBench, if_pos rfl, h.found]
    rfl
  · rw [scheduled]
    exact h.known
  · show s.Awaits ((f b).scheduled.filter (!w.isCancelled ·.reminder))
    rw [scheduled]
    exact h.live

variable (criterion window id) in
theorem attended_onTrial (w₀ : World (Resident γ)) :
    ∃ b, Attended criterion window w₀.benches.next id (onTrial criterion window id w₀) b .idle ∧
      b.rejecting = false ∧ b.emitted = [] :=
  ⟨_, ⟨get?_onTrial criterion window id w₀, rfl, nofun, rfl⟩, rfl, rfl⟩

end Trial

/-! ### Two trials -/

/-- The same move, but for the time of day that is read from then on. What is sent is no check, and
where an event is made for it, the criterion looks at nothing but what the event says. -/
inductive MoveAlike (criterion : Criterion) : TrialMove → TrialMove → Prop
  | send {e : Event} (plain : e.topic ≠ Topic.pairTimeoutCheck) :
      MoveAlike criterion (.send e) (.send e)
  | sendNew {topic : String} (values : Source) (scene : Option SceneId)
      (plain : topic ≠ Topic.pairTimeoutCheck)
      (blind : ∀ e e' : Event, e'.notice = e.notice → ∀ data, criterion e' data = criterion e data) :
      MoveAlike criterion (.sendNew topic values scene) (.sendNew topic values scene)
  | fireNext : MoveAlike criterion .fireNext .fireNext
  | setClock {clock clock' : Clock} (mono : clock'.mono = clock.mono) :
      MoveAlike criterion (.setClock clock) (.setClock clock')
  | reject (rejecting : Bool) : MoveAlike criterion (.reject rejecting) (.reject rejecting)
  | clearRecords : MoveAlike criterion .clearRecords .clearRecords
  | takeEmitted : MoveAlike criterion .takeEmitted .takeEmitted

section Twins

variable {γ : Type} (criterion : Criterion) (window : Duration) (bench bench' : BenchId) (id : CellId)

/-- Two trials that came to the same so far. -/
structure Twins (w w' : World (Resident γ)) (b b' : Bench (Resident γ)) (s s' : State) : Prop where
  left : Attended criterion window bench id w b s
  right : Attended criterion window bench' id w' b' s'
  alike : s.Alike s'
  mono : w'.clock.mono = w.clock.mono
  rejecting : b'.rejecting = b.rejecting
  emitted : b'.emitted.map (·.notice.timeless) = b.emitted.map (·.notice.timeless)

variable {criterion window bench bench' id} [CustomBehavior γ] {w w' : World (Resident γ)}
  {b b' : Bench (Resident γ)} {s s' : State}

omit [CustomBehavior γ] in
/-- Two calls that report alike leave two trials alike. -/
theorem Twins.after (h : Twins criterion window bench bench' id w w' b b' s s')
    {w₁ w₁' : World (Resident γ)} {b₁ b₁' : Bench (Resident γ)} {s₁ s₁' : State}
    {tried tried' : List (Attempt Notice)} (left : Attended criterion window bench id w₁ b₁ s₁)
    (right : Attended criterion window bench' id w₁' b₁' s₁') (alike : s₁.Alike s₁')
    (clock : w₁.clock = w.clock) (clock' : w₁'.clock = w'.clock) (reported : Reported b b₁ tried)
    (reported' : Reported b' b₁' tried') (same : reports tried' = reports tried) :
    Twins criterion window bench bench' id w₁ w₁' b₁ b₁' s₁ s₁' := by
  refine ⟨left, right, alike, ?_, ?_, ?_⟩
  · rw [clock, clock', h.mono]
  · rw [reported'.rejecting, h.rejecting, reported.rejecting]
  · rw [reported'.emitted, reported.emitted, h.emitted, h.rejecting, same]

/-- Deliveries of events that the criterion does not tell apart. -/
theorem Twins.send (h : Twins criterion window bench bench' id w w' b b' s s') {e e' : Event}
    (topic : e'.topic = e.topic) (scene : e'.scene = e.scene)
    (agree : ∀ data, criterion e' data = criterion e data)
    (plain : e.topic ≠ Topic.pairTimeoutCheck) :
    ∃ b b' s s', Twins criterion window bench bench' id (w.send bench e).2 (w'.send bench' e').2
      b b' s s' := by
  have plain' : e'.topic ≠ Topic.pairTimeoutCheck := topic ▸ plain
  obtain ⟨b₁, left, reported, clock⟩ := h.left.send plain
  obtain ⟨b₁', right, reported', clock'⟩ := h.right.send plain'
  obtain ⟨alike, same⟩ := step_alike criterion window (.bench bench id) h.alike
    (.ofCall (w, e)) (.ofCall (w', e')) h.mono plain plain' agree scene (.bench bench' id)
  exact ⟨_, _, _, _, h.after left right alike clock clock' reported reported' same⟩

/-- Both fire nothing, or each the check of its own open hit. -/
theorem Twins.fireNext (h : Twins criterion window bench bench' id w w' b b' s s') :
    ∃ b b' s s', Twins criterion window bench bench' id (w.fireNext bench).2 (w'.fireNext bench').2
      b b' s s' := by
  obtain ⟨left, right, alike, mono, rejecting, emitted⟩ := h
  cases alike with
  | idle =>
    rw [left.fireNext_idle, right.fireNext_idle]
    exact ⟨b, b', _, _, left, right, .idle, mono, rejecting, emitted⟩
  | pending since data scene =>
    obtain ⟨b₁, fired, reported, clock⟩ := left.fireNext_pending
    obtain ⟨b₁', fired', reported', clock'⟩ := right.fireNext_pending
    refine ⟨b₁, b₁', _, _, Twins.after ⟨left, right, .pending since data scene, mono, rejecting,
      emitted⟩ fired fired' .idle clock clock' reported reported' ?_⟩
    exact congrArg (fun n => [n]) (timeless_timeoutNotice data scene _ _)

/-- **Moves that are alike keep two trials alike.** -/
theorem Twins.tryOut (h : Twins criterion window bench bench' id w w' b b' s s') {m m' : TrialMove}
    (same : MoveAlike criterion m m') :
    ∃ b b' s s', Twins criterion window bench bench' id (tryOut bench w m) (tryOut bench' w' m')
      b b' s s' := by
  cases same with
  | send plain => exact h.send rfl rfl (fun _ => rfl) plain
  | @sendNew topic values scene plain blind =>
    have made : Twins criterion window bench bench' id
        (w.make (Event.make topic values scene w.clock.wall)).2
        (w'.make (Event.make topic values scene w'.clock.wall)).2 b b' s s' :=
      ⟨h.left.of_eq rfl rfl, h.right.of_eq rfl rfl, h.alike, h.mono, h.rejecting, h.emitted⟩
    refine made.send rfl rfl (blind _ _ ?_) plain
    have entries (fresh : Nat) : (Payload.new values fresh).entries = values.entries :=
      Payload.entries_new values fresh
    show Notice.mk topic (Payload.new values _).entries scene =
      Notice.mk topic (Payload.new values _).entries scene
    rw [entries, entries]
  | fireNext => exact h.fireNext
  | setClock mono =>
    exact ⟨b, b', s, s', h.left.of_eq rfl rfl, h.right.of_eq rfl rfl, h.alike, mono, h.rejecting,
      h.emitted⟩
  | reject rejecting =>
    exact ⟨_, _, s, s', h.left.modifyBench rfl rfl, h.right.modifyBench rfl rfl, h.alike, h.mono,
      rfl, h.emitted⟩
  | clearRecords =>
    exact ⟨_, _, s, s', h.left.modifyBench rfl rfl, h.right.modifyBench rfl rfl, h.alike, h.mono,
      h.rejecting, rfl⟩
  | takeEmitted =>
    exact ⟨_, _, s, s', h.left.modifyBench rfl rfl, h.right.modifyBench rfl rfl, h.alike, h.mono,
      h.rejecting, rfl⟩

theorem Twins.trial (h : Twins criterion window bench bench' id w w' b b' s s')
    {moves moves' : List TrialMove} (same : List.Forall₂ (MoveAlike criterion) moves moves') :
    ∃ b b' s s', Twins criterion window bench bench' id (w.trial bench moves)
      (w'.trial bench' moves') b b' s s' := by
  induction same generalizing w w' b b' s s' with
  | nil => exact ⟨b, b', s, s', h⟩
  | cons first _ ih =>
    obtain ⟨b₁, b₁', s₁, s₁', h₁⟩ := h.tryOut first
    exact ih h₁

end Twins

/-- Two detectors that decided alike: both wait for a partner or neither does, with the same data and
scene, since the same reading of the running clock, and what they reported is the same but for the
times of day. -/
structure SameDecisions {γ : Type} (b b' : Bench (Resident γ)) (p p' : Pair) : Prop where
  resident : b.resident = .pair p
  resident' : b'.resident = .pair p'
  pending : p'.pending.isSome = p.pending.isSome
  since : p'.since = p.since
  data : p'.data = p.data
  scene : p'.scene = p.scene
  emitted : b'.emitted.map (·.notice.timeless) = b.emitted.map (·.notice.timeless)

/-- **The time of day decides nothing.** Two trials of a detector of pairs that deliver the same
events, none of them a check, and fire in the same order, at the same readings of the running clock
and whatever readings of the time of day, decide alike; as any beginnings of such trials are such
trials, they do so after every move. -/
theorem wall_clock_decides_nothing {γ : Type} [CustomBehavior γ] (criterion : Criterion)
    (window : Duration) (id : CellId) (w₀ w₀' : World (Resident γ))
    (mono : w₀'.clock.mono = w₀.clock.mono) {moves moves' : List TrialMove}
    (same : List.Forall₂ (MoveAlike criterion) moves moves') :
    ∃ b b' p p',
      ((onTrial criterion window id w₀).trial w₀.benches.next moves).benches.get?
          w₀.benches.next = some b ∧
        ((onTrial criterion window id w₀').trial w₀'.benches.next moves').benches.get?
          w₀'.benches.next = some b' ∧
        SameDecisions b b' p p' := by
  obtain ⟨b₀, left, accepts, none_emitted⟩ :=
    attended_onTrial criterion window id w₀
  obtain ⟨b₀', right, accepts', none_emitted'⟩ :=
    attended_onTrial criterion window id w₀'
  have start : Twins criterion window w₀.benches.next w₀'.benches.next id
      (onTrial criterion window id w₀) (onTrial criterion window id w₀') b₀ b₀' .idle .idle := by
    refine ⟨left, right, .idle, ?_, accepts'.trans accepts.symm, ?_⟩
    · rw [onTrial_eq, onTrial_eq]
      exact mono
    · rw [none_emitted, none_emitted']
  obtain ⟨b, b', s, s', twins⟩ := start.trial same
  refine ⟨b, b', _, _, twins.left.found, twins.right.found, twins.left.resident,
    twins.right.resident, ?_, ?_, ?_, ?_, twins.emitted⟩
  all_goals cases twins.alike with
    | idle => rfl
    | pending since data scene => first | rfl | exact congrArg some since | exact data | exact scene

/-- Two hits and, after their pair, a third one whose check is fired; the running clock is read as
5 and 7 nanoseconds, the time of day as given. -/
def pairThenTimeout (first second : Wall) : List TrialMove :=
  let hit : TrialMove := .send ⟨.ofSerial 0, "m", .mk 0 [], none, ⟨0, 0⟩⟩
  [.setClock ⟨first, ⟨5⟩⟩, hit, .setClock ⟨second, ⟨7⟩⟩, hit, hit, .fireNext]

/-- A world in which a detector to which every event is a hit was tried out. -/
def triedAlways (moves : List TrialMove) : World (Resident Actor) :=
  (onTrial .always (.ofMillis 10) ⟨"p"⟩ (startingAt ⟨0, 0⟩)).trial ⟨0⟩ moves

/-- A time of day that stands still and one that runs backward. -/
theorem backward_wall_clock_decides_nothing :
    ∃ b b' p p', (triedAlways (pairThenTimeout ⟨3, 0⟩ ⟨3, 0⟩)).benches.get? ⟨0⟩ = some b ∧
      (triedAlways (pairThenTimeout ⟨8, 0⟩ ⟨2, 0⟩)).benches.get? ⟨0⟩ = some b' ∧
      SameDecisions b b' p p' ∧ b.emitted.map (·.topic) = [Topic.pair, Topic.pairTimeout] := by
  have same : List.Forall₂ (MoveAlike .always) (pairThenTimeout ⟨3, 0⟩ ⟨3, 0⟩)
      (pairThenTimeout ⟨8, 0⟩ ⟨2, 0⟩) :=
    .cons (.setClock rfl) <| .cons (.send (by decide)) <| .cons (.setClock rfl) <|
      .cons (.send (by decide)) <| .cons (.send (by decide)) <| .cons .fireNext .nil
  obtain ⟨b, b', p, p', found, found', decided⟩ := wall_clock_decides_nothing .always (.ofMillis 10)
    ⟨"p"⟩ (startingAt ⟨0, 0⟩ : World (Resident Actor)) (startingAt ⟨0, 0⟩) rfl same
  have reported : ((triedAlways (pairThenTimeout ⟨3, 0⟩ ⟨3, 0⟩)).benches.get? ⟨0⟩).map
      (·.emitted.map (·.topic)) = some [Topic.pair, Topic.pairTimeout] := rfl
  refine ⟨b, b', p, p', found, found', decided, ?_⟩
  rw [show (triedAlways (pairThenTimeout ⟨3, 0⟩ ⟨3, 0⟩)).benches.get? ⟨0⟩ = some b from found]
    at reported
  exact Option.some.inj reported

end PairMachine

end EventMesh
