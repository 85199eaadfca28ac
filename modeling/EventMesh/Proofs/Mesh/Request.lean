import EventMesh.Behavior.Actor
import EventMesh.Proofs.Mesh.Delivery
import EventMesh.Proofs.Mesh.Registry
import EventMesh.Proofs.Wait.Rendezvous

/-!
# Requests

A call makes a waiter of its own, lays it over the values of the caller, and sends the event or gives
up. Main statements: what the first turn of a call comes to (`progress?_stepTask_ask`); whatever happens
afterwards, the call waits for its own waiter or ended as that waiter or its own context made it end
(`Stirs.standing`); no other call ever waits for the same waiter (`Stirs.reserved`).
`requests_never_cross` puts them together.
-/

namespace EventMesh

open Time

/-- What a call asks for: an event with the values of the caller goes to a cell, and its reply is waited
for within a context. -/
structure Ask where
  mesh : MeshId
  target : CellId
  topic : String
  values : Source
  ctx : Context

namespace Errand

/-- The call that a task makes in a first turn at the given instant, if it is there to make one. -/
def ask? (errand : Errand) (now : Instant) : Option Ask :=
  match errand with
  | .request mesh target topic values ctx => some ⟨mesh, target, topic, values, ctx⟩
  | .tally mesh target ctx timeout =>
    some ⟨mesh, target, Topic.counterResults, .empty, ctx.withTimeout now timeout⟩
  | .wait .. | .waitFlag .. | .watch _ | .sleep _ | .remind .. | .shutdown _ => none

/-- Whether a task is there to make a call. -/
def Calls : Errand → Prop
  | .request .. | .tally .. => True
  | .wait .. | .waitFlag .. | .watch _ | .sleep _ | .remind .. | .shutdown _ => False

variable {errand : Errand} {now : Instant} {a : Ask}

theorem calls_of_ask? (h : errand.ask? now = some a) : errand.Calls := by
  cases errand <;> simp [ask?, Calls] at h ⊢

theorem Calls.exists_ask (h : errand.Calls) (now : Instant) : ∃ a, errand.ask? now = some a := by
  cases errand <;> simp [ask?, Calls] at h ⊢

/-- What the end of the wait of a call comes to. -/
theorem Calls.reportWait (h : errand.Calls) (r : Except EventError Payload) :
    errand.reportWait r = errand.reportResponse (r.mapError .request) := by
  cases errand <;> simp [Calls] at h <;> rfl

end Errand

/-- The event of a call: the values of the caller, with a waiter in the place where replies are
expected. -/
structure Event.Requests (e : Event) (topic : String) (values : Source) (v : WaiterId) : Prop where
  topic : e.topic = topic
  waiter : e.payload.get? Key.waiter = some (.waiter v)
  /-- Everything else is as the caller gave it. -/
  others : ∀ key, key ≠ Key.waiter → e.payload.get? key = Dict.get? values.entries key

namespace World

variable {β : Type}

theorem requests_requestEvent (w : World β) (topic : String) (values : Source) :
    (w.requestEvent topic values).1.Requests topic values w.waiters.next := by
  have laid (key : String) : (w.requestEvent topic values).1.payload.get? key =
      (Dict.get? [(Key.waiter, Value.waiter w.waiters.next)] key).or
        ((Payload.new values w.serials.storage).get? key) :=
    Payload.get?_apply (Payload.new values w.serials.storage)
      (.pairs [(Key.waiter, .waiter w.waiters.next)]) _ key
  refine ⟨rfl, ?_, fun key other => ?_⟩
  · rw [laid]
    simp [Dict.get?]
  · rw [laid]
    have beside : Dict.get? [(Key.waiter, Value.waiter w.waiters.next)] key = none := by
      simp [Dict.get?, Ne.symm other]
    rw [beside, Option.none_or]
    cases values with
    | payload p =>
      cases p
      rfl
    | empty | pairs | single => rfl

/-! ### The first turn -/

section First

variable {w : World β} {t : TaskId} {task : Task} {a : Ask}

theorem route_error {mesh : MeshId} {target : CellId} {err : MeshError}
    (h : w.route mesh target = .error err) : err = .cellNotFound target ∨ err = .shuttingDown := by
  unfold route ifOpen at h
  split at h
  · cases h
    exact Or.inr rfl
  · split at h
    · cases h
      exact Or.inr rfl
    · dsimp only at h
      split at h
      · cases h
        exact Or.inl rfl
      · cases h

/-- In its first turn a call gives up without a cell that takes its event, or sends it and begins to
wait. -/
theorem stepTask_ask (at_ : w.tasks.get? t = some task) (asks : task.errand.ask? w.now = some a)
    (fresh : task.progress = .fresh) (kept : task.doomed = false) :
    (∃ err, w.route a.mesh a.target = .error err ∧
      w.stepTask t = ((w.dismiss (.task t)).withRequest a.topic a.values).conclude t
        (task.errand.reportResponse (.error err))) ∨
    ∃ key, w.route a.mesh a.target = .ok key ∧
      w.stepTask t = (((w.dismiss (.task t)).withRequest a.topic a.values).accept key
        (w.requestEvent a.topic a.values).1).beginWait t task.errand (.waiter w.waiters.next)
          a.ctx := by
  have begins : w.stepTask t = (w.dismiss (.task t)).beginRequest t task.errand a.mesh a.target
      a.topic a.values a.ctx := by
    rw [stepTask_fresh at_ kept fresh, begin]
    cases errand : task.errand <;> rw [errand] at asks <;> cases asks <;> rfl
  rw [begins]
  exact beginRequest_cases (w.dismiss (.task t)) t task.errand a.mesh a.target a.topic a.values a.ctx

/-- What the first turn of a call comes to. -/
theorem progress?_stepTask_ask (at_ : w.tasks.get? t = some task)
    (asks : task.errand.ask? w.now = some a) (fresh : task.progress = .fresh)
    (kept : task.doomed = false) :
    (w.stepTask t).progress? t = some (match w.route a.mesh a.target, w.err? a.ctx with
      | .error err, _ => .finished (task.errand.reportResponse (.error err))
      | .ok _, some e => .finished (task.errand.reportResponse (.error (.request e)))
      | .ok _, none => .waiting (.waiter w.waiters.next) a.ctx) := by
  rcases stepTask_ask at_ asks fresh kept with ⟨err, unsent, first⟩ | ⟨key, sent, first⟩
  · rw [first, unsent]
    exact progress?_conclude (w := (w.dismiss (.task t)).withRequest a.topic a.values) at_ _
  · set asked := ((w.dismiss (.task t)).withRequest a.topic a.values).accept key
      (w.requestEvent a.topic a.values).1 with asked_def
    have accepting := (confined_accept ((w.dismiss (.task t)).withRequest a.topic a.values) key
      (w.requestEvent a.topic a.values).1).apart
    have still : asked.tasks.get? t = some task := by
      rw [asked_def, accepting.tasks]
      exact at_
    have err : asked.err? a.ctx = w.err? a.ctx := by
      rw [World.err?, asked_def, accepting.scopes, accepting.now]
      rfl
    have unset : asked.waiters.reply? w.waiters.next = none := by
      rw [asked_def, accepting.waiters]
      show (w.waiters.add {}).reply? w.waiters.next = none
      rw [Table.reply?_add, Table.reply?, Table.get?_next]
      rfl
    rw [first, sent, progress?_beginWait still, err, waitResult?_eq, slotReply?, unset, err]
    cases w.err? a.ctx with
    | none => rfl
    | some e =>
      have ended := (Errand.calls_of_ask? asks).reportWait (.error e)
      exact congrArg (fun report => some (Progress.finished report)) ended

/-- A call makes a waiter in its first turn. -/
theorem size_stepTask_ask (at_ : w.tasks.get? t = some task)
    (asks : task.errand.ask? w.now = some a) (fresh : task.progress = .fresh)
    (kept : task.doomed = false) : (w.stepTask t).waiters.size = w.waiters.size + 1 := by
  have made : ((w.dismiss (.task t)).withRequest a.topic a.values).waiters.size =
      w.waiters.size + 1 := Table.size_add ..
  rcases stepTask_ask at_ asks fresh kept with ⟨err, -, first⟩ | ⟨key, -, first⟩
  · rw [first, conclude, waiters_endTask, made]
  · rw [first, waiters_beginWait, (confined_accept _ _ _).apart.waiters, made]

/-- The event of a call enters the queue that the name leads to in the first turn, and nothing else
enters a queue then. -/
theorem acceptedBy_stepTask_ask (at_ : w.tasks.get? t = some task)
    (asks : task.errand.ask? w.now = some a) (fresh : task.progress = .fresh)
    (kept : task.doomed = false) (j : CellKey) : (w.stepTask t).acceptedBy j =
      w.acceptedBy j ++ match w.route a.mesh a.target with
        | .ok key => if key = j then [(w.requestEvent a.topic a.values).1] else []
        | .error _ => [] := by
  have making : Silent w ((w.dismiss (.task t)).withRequest a.topic a.values) :=
    .of_cells rfl
  rcases stepTask_ask at_ asks fresh kept with ⟨err, unsent, first⟩ | ⟨key, sent, first⟩
  · rw [first, unsent, polls_silent.conclude _ t _ j, making j, List.append_nil]
  · have leads : ((w.dismiss (.task t)).withRequest a.topic a.values).route a.mesh a.target =
        .ok key := sent
    rw [first, sent, polls_silent.beginWait _ t _ _ _ j, acceptedBy_accept leads, making j]

end First

/-! ### Later turns -/

section Later

variable {w : World β} {t : TaskId} {task : Task}

/-- Once a call has begun its turns put nothing into queues. -/
theorem silent_stepTask (at_ : w.tasks.get? t = some task) (calls : task.errand.Calls)
    (begun : task.isBegun = true) : Silent w (w.stepTask t) := by
  refine polls_silent.stepTask w t ?_ ?_
  · intro task' at' key r delay e errand
    cases at_.symm.trans at'
    rw [errand] at calls
    exact calls
  · intro task' at' _ _ fresh
    cases at_.symm.trans at'
    rw [begun] at fresh
    cases fresh

/-- How far a call may have come: it has yet to begin, it waits for a waiter that there is, or it is
over. -/
inductive Staged (w : World β) : Progress → Prop
  | fresh : Staged w .fresh
  | waiting {v : WaiterId} (known : v.index < w.waiters.size) (ctx : Context) :
      Staged w (.waiting (.waiter v) ctx)
  | finished (report : Report) : Staged w (.finished report)
  | aborted : Staged w .aborted

theorem Staged.later {w' : World β} {progress : Progress} (h : w.Staged progress)
    (grows : w.waiters.size ≤ w'.waiters.size) : w'.Staged progress := by
  cases h with
  | fresh => exact .fresh
  | waiting known ctx => exact .waiting (Nat.lt_of_lt_of_le known grows) ctx
  | finished report => exact .finished report
  | aborted => exact .aborted

theorem staged_of_isOver (past : task.isOver = true) : w.Staged task.progress := by
  rw [Task.isOver] at past
  split at past
  · rename_i h
    rw [h]
    exact .finished _
  · rename_i h
    rw [h]
    exact .aborted
  all_goals cases past

/-- **The turn of a call**: it begins, with a waiter that is made for it, or it goes on to wait for what
it waited for, or it is over. -/
theorem turn_of_call {task' : Task} (at_ : w.tasks.get? t = some task) (calls : task.errand.Calls)
    (at' : (w.stepTask t).tasks.get? t = some task') :
    (task.progress = .fresh ∧ (w.stepTask t).waiters.size = w.waiters.size + 1 ∧
        ∃ ctx, task'.progress = .waiting (.waiter w.waiters.next) ctx) ∨
      task'.progress = task.progress ∨ task'.isOver = true := by
  cases hp : task.progress with
  | fresh =>
    have live : task.isOver = false := by rw [Task.isOver, hp]
    have came := progress?_of_get? at'
    cases doomed : task.doomed with
    | true =>
      rw [progress?_stepTask_doomed at_ live doomed] at came
      exact Or.inr (Or.inr (by rw [Task.isOver, ← Option.some.inj came]))
    | false =>
      obtain ⟨a, asks⟩ := calls.exists_ask w.now
      rw [progress?_stepTask_ask at_ asks hp doomed] at came
      have came := Option.some.inj came
      split at came
      · exact Or.inr (Or.inr (by rw [Task.isOver, ← came]))
      · exact Or.inr (Or.inr (by rw [Task.isOver, ← came]))
      · exact Or.inl ⟨rfl, size_stepTask_ask at_ asks hp doomed, _, came.symm⟩
  | waiting | watching | sleeping | joining | finished | aborted =>
    obtain ⟨task₁, at₁, comes⟩ := begun_stepTask at_ (by rw [Task.isBegun, hp])
    cases at'.symm.trans at₁
    exact Or.inr (hp ▸ comes)

/-- Every call is staged. -/
def AllStaged (w : World β) : Prop :=
  ∀ t task, w.tasks.get? t = some task → task.errand.Calls → w.Staged task.progress

theorem Stirs.allStaged {wall : Time.Wall} {log : List Mark} (h : Stirs (startingAt wall) log w) :
    w.AllStaged := by
  induction h with
  | refl =>
    intro t task at_
    cases at_
  | @tail log marks w w' _ s ih =>
    intro t task' at' calls
    rcases s.task at' with ⟨task, at_, same, came⟩ | ⟨-, fresh⟩ | polled
    · rw [came]
      exact (ih t task at_ (same ▸ calls)).later s.grows.waiters
    · rw [fresh]
      exact .fresh
    · subst polled
      obtain ⟨task, at_, same⟩ := task_before_turn at'
      rcases turn_of_call at_ (same ▸ calls) at' with ⟨-, size, ctx, waiting⟩ | still | past
      · rw [waiting]
        exact .waiting (by rw [size]; exact Nat.lt_succ_self _) ctx
      · rw [still]
        exact (ih t task at_ (same ▸ calls)).later s.grows.waiters
      · exact staged_of_isOver past

end Later

/-! ### Whose waiter it is -/

section Reserved

variable {w w' : World β} {t : TaskId} {v : WaiterId}

/-- No call but that of one task waits for a waiter. -/
def Reserved (w : World β) (v : WaiterId) (t : TaskId) : Prop :=
  ∀ t' task' ctx, w.tasks.get? t' = some task' → task'.errand.Calls →
    task'.progress = .waiting (.waiter v) ctx → t' = t

/-- Whoever calls waits for no waiter but a new one, or the one it waited for. -/
theorem Stir.reserved {marks : List Mark} (h : Stir w marks w') (known : v.index < w.waiters.size)
    (reserved : w.Reserved v t) : w'.Reserved v t := by
  intro t' task' ctx at' calls waiting
  rcases h.task at' with ⟨task, at_, same, came⟩ | ⟨-, fresh⟩ | polled
  · exact reserved t' task ctx at_ (same ▸ calls) (came ▸ waiting)
  · rw [fresh] at waiting
    cases waiting
  · subst polled
    obtain ⟨task, at_, same⟩ := task_before_turn at'
    rcases turn_of_call at_ (same ▸ calls) at' with ⟨-, -, ctx', began⟩ | still | past
    · rw [began] at waiting
      cases waiting
      exact absurd known (Nat.lt_irrefl _)
    · exact reserved t' task ctx at_ (same ▸ calls) (still ▸ waiting)
    · rw [Task.isOver, waiting] at past
      cases past

/-- **No other call ever waits for the waiter of a call.** -/
theorem Stirs.reserved {log : List Mark} (h : Stirs w log w') (known : v.index < w.waiters.size)
    (reserved : w.Reserved v t) : w'.Reserved v t := by
  induction h with
  | refl => exact reserved
  | tail h s ih => exact s.reserved (Nat.lt_of_lt_of_le known h.grows.waiters) ih

/-- A waiter that is made in the turn of a task is its own. -/
theorem reserved_stepTask (staged : w.AllStaged) (t : TaskId) :
    (w.stepTask t).Reserved w.waiters.next t := by
  intro t' task' ctx at' calls waiting
  by_contra other
  have staged' := staged t' task' ((spares_stepTask w t).tasks t' other ▸ at') calls
  rw [waiting] at staged'
  cases staged' with
  | waiting known => exact Nat.lt_irrefl _ known

end Reserved

/-! ### How calls end -/

/-- Between two worlds the task of a call had a turn in which it gave up, because its context had ended
then. -/
inductive GaveUp (w₁ w₂ : World β) (t : TaskId) (errand : Errand) (ctx : Context) (e : EventError) :
    Prop
  | turn {w : World β} {log log' : List Mark} (before : Stirs w₁ log w) (ended : w.err? ctx = some e)
      (pending : w.report? t = none)
      (reported : (w.stepTask t).report? t =
        some (errand.reportResponse (.error (.request e))))
      (after : Stirs (w.stepTask t) log' w₂)

/-- How far a call may have come that was sent with a waiter: it waits for the reply within its context,
or it brings back what the waiter holds, or it gave up with its context, or it was dropped. -/
inductive Standing (w₁ w : World β) (t : TaskId) (errand : Errand) (v : WaiterId) (ctx : Context) :
    Progress → Prop
  | waiting : Standing w₁ w t errand v ctx (.waiting (.waiter v) ctx)
  | replied {p : Payload} (h : w.waiters.reply? v = some p) :
      Standing w₁ w t errand v ctx (.finished (errand.reportResponse (.ok p)))
  | gaveUp {e : EventError} (h : GaveUp w₁ w t errand ctx e) :
      Standing w₁ w t errand v ctx (.finished (errand.reportResponse (.error (.request e))))
  | aborted : Standing w₁ w t errand v ctx .aborted

section Standing

variable {w₁ w w' : World β} {t : TaskId} {task : Task} {errand : Errand} {v : WaiterId}
  {ctx : Context} {progress : Progress}

theorem Standing.stir (h : Standing w₁ w t errand v ctx progress) {marks : List Mark}
    (s : Stir w marks w') : Standing w₁ w' t errand v ctx progress := by
  cases h with
  | waiting => exact .waiting
  | replied h => exact .replied (s.reply?_kept h)
  | gaveUp h =>
    obtain ⟨before, ended, pending, reported, after⟩ := h
    exact .gaveUp ⟨before, ended, pending, reported, after.tail s⟩
  | aborted => exact .aborted

/-- Each later turn of a call. -/
theorem Standing.poll {log : List Mark} (before : Stirs w₁ log w)
    (at_ : w.tasks.get? t = some task) (calls : task.errand.Calls)
    (h : Standing w₁ w t task.errand v ctx task.progress) {task' : Task}
    (at' : (w.stepTask t).tasks.get? t = some task') :
    Standing w₁ (w.stepTask t) t task.errand v ctx task'.progress := by
  have kept : Standing w₁ (w.stepTask t) t task.errand v ctx task.progress := h.stir (.poll t)
  by_cases past : task.isOver = true
  · rw [stepTask_over at_ past] at at'
    cases at_.symm.trans at'
    exact kept
  have live : task.isOver = false := by simpa using past
  generalize hp : task.progress = progress at h kept
  cases h with
  | waiting =>
    have came := progress?_of_get? at'
    cases doomed : task.doomed with
    | true =>
      rw [progress?_stepTask_doomed at_ live doomed] at came
      rw [← Option.some.inj came]
      exact .aborted
    | false =>
      rw [progress?_stepTask_waiting at_ doomed hp, waitResult?_eq] at came
      have came := Option.some.inj came
      split at came
      · rename_i p reply
        rw [← came, Option.elim_some, calls.reportWait]
        exact .replied (((spares_stepTask w t).slotReply? (.waiter v)).trans reply)
      · rename_i e _ ended
        rw [Option.elim_some, calls.reportWait] at came
        rw [← came]
        refine .gaveUp ⟨before, ended, ?_, ?_, .refl⟩
        · rw [report?, progress?_of_get? at_, hp]
          rfl
        · rw [report?, progress?_of_get? at', ← came]
          rfl
      · rw [← came]
        exact .waiting
  | replied | gaveUp | aborted =>
    rw [Task.isOver, hp] at live
    cases live

theorem Standing.isBegun (h : Standing w₁ w t errand v ctx task.progress) : task.isBegun = true := by
  rw [Task.isBegun]
  generalize task.progress = progress at h
  cases h <;> rfl

/-- The task is there to make a call, and stands so. -/
def StandingAt (w₁ w : World β) (t : TaskId) (errand : Errand) (v : WaiterId) (ctx : Context) : Prop :=
  ∃ task, w.tasks.get? t = some task ∧ task.errand = errand ∧
    Standing w₁ w t errand v ctx task.progress

/-- **A call that was sent stands so for good**, whatever happens. -/
theorem Stirs.standing {log log' : List Mark} (before : Stirs w₁ log w) (h : Stirs w log' w')
    (calls : errand.Calls) (standing : StandingAt w₁ w t errand v ctx) :
    StandingAt w₁ w' t errand v ctx := by
  induction h with
  | refl => exact standing
  | @tail log' marks w₂ w₃ h s ih =>
    obtain ⟨task, at_, rfl, stands⟩ := ih
    obtain ⟨task', at', same⟩ := s.grows.tasks t task at_
    refine ⟨task', at', same, ?_⟩
    rcases s.task at' with ⟨task₀, at₀, -, came⟩ | ⟨new, -⟩ | polled
    · cases at_.symm.trans at₀
      rw [came]
      exact stands.stir s
    · exact absurd new (Table.ne_next_of_get? at_)
    · subst polled
      exact stands.poll (before.trans h) at_ calls at'

/-- A call that found a cell which takes its event stands so after its first turn. -/
theorem standing_ask {a : Ask} (at_ : w.tasks.get? t = some task)
    (asks : task.errand.ask? w.now = some a) (fresh : task.progress = .fresh)
    (kept : task.doomed = false) {key : CellKey} (leads : w.route a.mesh a.target = .ok key) :
    StandingAt w (w.stepTask t) t task.errand w.waiters.next a.ctx := by
  obtain ⟨task', at', same⟩ := (grows_pieces (pieces_stepTask w t)).tasks t task at_
  refine ⟨task', at', same, ?_⟩
  have came := progress?_of_get? at'
  rw [progress?_stepTask_ask at_ asks fresh kept, leads] at came
  cases ended : w.err? a.ctx with
  | none =>
    rw [ended] at came
    rw [← Option.some.inj came]
    exact .waiting
  | some e =>
    rw [ended] at came
    have came := Option.some.inj came
    rw [← came]
    refine .gaveUp ⟨.refl, ended, ?_, ?_, .refl⟩
    · rw [report?, progress?_of_get? at_, fresh]
      rfl
    · rw [report?, progress?_of_get? at', ← came]
      rfl

end Standing

/-! ### Replies to others -/

section Others

variable {w w' : World β} {t : TaskId} {task : Task}

/-- What the turn of a call comes to depends on its own waiter and context, and, if it is yet to begin,
on where its name leads. -/
theorem progress?_stepTask_congr (calls : task.errand.Calls) (staged : w.Staged task.progress)
    (at_ : w.tasks.get? t = some task) (at' : w'.tasks.get? t = some task)
    (now : w'.now = w.now) (scopes : w'.scopes = w.scopes)
    (next : w'.waiters.next = w.waiters.next)
    (routes : ∀ mesh target, w'.route mesh target = w.route mesh target)
    (reply : ∀ u ctx, task.progress = .waiting (.waiter u) ctx →
      w'.waiters.reply? u = w.waiters.reply? u) :
    (w'.stepTask t).progress? t = (w.stepTask t).progress? t := by
  have err (ctx : Context) : w'.err? ctx = w.err? ctx := by
    rw [World.err?, scopes, now, World.err?]
  cases past : task.isOver with
  | true =>
    rw [stepTask_over at_ past, stepTask_over at' past]
    exact (progress?_of_get? at').trans (progress?_of_get? at_).symm
  | false =>
    cases doomed : task.doomed with
    | true => rw [progress?_stepTask_doomed at_ past doomed, progress?_stepTask_doomed at' past doomed]
    | false =>
      generalize hp : task.progress = progress at staged
      cases staged with
      | fresh =>
        obtain ⟨a, asks⟩ := calls.exists_ask w.now
        rw [progress?_stepTask_ask at_ asks hp doomed,
          progress?_stepTask_ask at' (now ▸ asks) hp doomed, routes, err, next]
      | waiting known ctx =>
        rw [progress?_stepTask_waiting at_ doomed hp, progress?_stepTask_waiting at' doomed hp,
          waitResult?_eq, waitResult?_eq, slotReply?, slotReply?, reply _ ctx hp, err]
      | finished report =>
        rw [Task.isOver, hp] at past
        cases past
      | aborted =>
        rw [Task.isOver, hp] at past
        cases past

/-- A reply makes no difference to a call that waits for another waiter. -/
theorem progress?_stepTask_answer (calls : task.errand.Calls) (staged : w.Staged task.progress)
    (at_ : w.tasks.get? t = some task) {v : WaiterId} (p : Payload)
    (other : ∀ ctx, task.progress ≠ .waiting (.waiter v) ctx) :
    ((w.answer v p).2.stepTask t).progress? t = (w.stepTask t).progress? t := by
  have answered : ((w.answer v p).2).waits = { w.waits with waiters := w.waiters.set v p } :=
    (confined_wake { w with waiters := w.waiters.set v p }).apart.waits
  have waiters : ((w.answer v p).2).waiters = w.waiters.set v p := congrArg Waits.waiters answered
  have beside := aside_answer w v p
  refine progress?_stepTask_congr calls staged at_ ?_ (congrArg Waits.now answered)
    (congrArg Waits.scopes answered) ?_ (fun mesh target => ?_) fun u ctx waiting => ?_
  · exact (congrArg (fun side => side.tasks.get? t) answered).trans at_
  · rw [waiters]
    exact congrArg Handle.mk (Table.size_modify w.waiters v _)
  · simp only [route, ifOpen, taker?, beside.meshes, beside.cells]
  · rw [waiters, Table.reply?_set, if_neg]
    rintro ⟨rfl, -⟩
    exact other ctx waiting

end Others

/-! ### Calls -/

/-- Why a call has its result: the payload was the first to be set on its waiter, its own context
ended, or there was no cell to take its event. -/
inductive Explains (w₁ w : World β) (t : TaskId) (errand : Errand) (a : Ask) (log : List Mark) :
    Except MeshError Payload → Prop
  | replied {key : CellKey} {p : Payload} {later : List (Payload × Bool)}
      (sent : w₁.route a.mesh a.target = .ok key)
      (first : setsOn w₁.waiters.next log = (p, true) :: later) : Explains w₁ w t errand a log (.ok p)
  | gaveUp {key : CellKey} {e : EventError} (sent : w₁.route a.mesh a.target = .ok key)
      (h : GaveUp w₁ w t errand a.ctx e) : Explains w₁ w t errand a log (.error (.request e))
  | unsent {err : MeshError} (h : w₁.route a.mesh a.target = .error err) :
      Explains w₁ w t errand a log (.error err)

/-- What holds of a call that had its first turn in one world, and of whatever came of it in a later
one. -/
structure Uncrossed (w₁ w : World β) (t : TaskId) (errand : Errand) (a : Ask) (log : List Mark) :
    Prop where
  /-- The waiter is new, and those that are made later are others. -/
  own : w₁.waiters.get? w₁.waiters.next = none ∧ w.waiters.next ≠ w₁.waiters.next
  /-- The event holds the waiter, and all else as the caller gave it. -/
  event : (w₁.requestEvent a.topic a.values).1.Requests a.topic a.values w₁.waiters.next
  /-- If the name leads to a cell, just this event enters just its queue. -/
  sent : ∀ key, w₁.route a.mesh a.target = .ok key → w₁.lookUp a.mesh a.target = some key ∧
    ∀ j, (w₁.stepTask t).acceptedBy j =
      w₁.acceptedBy j ++ if key = j then [(w₁.requestEvent a.topic a.values).1] else []
  /-- If it leads to none, nothing enters a queue and the call is over at once. -/
  unsent : ∀ err, w₁.route a.mesh a.target = .error err →
    (err = .cellNotFound a.target ∨ err = .shuttingDown) ∧ Silent w₁ (w₁.stepTask t) ∧
      w.report? t = some (errand.reportResponse (.error err))
  /-- No later turn puts anything into a queue. -/
  once : Silent w (w.stepTask t)
  result : ∀ report, w.report? t = some report →
    ∃ r, report = errand.reportResponse r ∧ Explains w₁ w t errand a log r
  /-- A call that has a result keeps it, whatever is set later. -/
  final : ∀ report log' w', w.report? t = some report → Stirs w log' w' →
    w'.report? t = some report
  /-- Nobody else who makes a call waits for the waiter. -/
  alone : w.Reserved w₁.waiters.next t
  /-- Once the call is over, a reply makes no difference to any call. -/
  late : (∀ ctx, w.progress? t ≠ some (.waiting (.waiter w₁.waiters.next) ctx)) →
    ∀ p t' task', w.tasks.get? t' = some task' → task'.errand.Calls →
      ((w.answer w₁.waiters.next p).2.stepTask t').progress? t' = (w.stepTask t').progress? t'

section Uncrossed

variable {w₁ w w' : World β} {t : TaskId} {task : Task} {a : Ask}

theorem report?_eq_some {report : Report} (h : w.report? t = some report) :
    ∃ task, w.tasks.get? t = some task ∧ task.progress = .finished report := by
  obtain ⟨progress, came, ends⟩ := Option.bind_eq_some_iff.mp h
  obtain ⟨task, at_, rfl⟩ := Option.map_eq_some_iff.mp came
  refine ⟨task, at_, ?_⟩
  cases hp : task.progress with
  | finished r =>
    rw [hp] at ends
    cases ends
    rfl
  | fresh | waiting | watching | sleeping | joining | aborted =>
    rw [hp] at ends
    cases ends

theorem report?_of_progress? {report : Report} (h : w.progress? t = some (.finished report)) :
    w.report? t = some report := by
  rw [report?, h]
  rfl

/-- A task that reported goes on to report the same. -/
theorem Stirs.report?_kept {log : List Mark} (h : Stirs w log w') {report : Report}
    (reported : w.report? t = some report) : w'.report? t = some report := by
  obtain ⟨task, at_, ends⟩ := report?_eq_some reported
  obtain ⟨task', at', same⟩ := h.progress?_kept at_ (by rw [Task.isOver, ends])
  exact report?_of_progress? (by rw [progress?_of_get? at', same, ends])

/-- Nothing was set on a waiter that is yet to be made. -/
theorem setsOn_eq_nil {wall : Time.Wall} {log : List Mark} (h : Stirs (startingAt wall) log w)
    {v : WaiterId} (unset : w.waiters.reply? v = none) : setsOn v log = [] := by
  have agrees := h.agrees v
  cases sets : setsOn v log with
  | nil => rfl
  | cons first later =>
    rw [sets] at agrees
    cases unset.symm.trans agrees.2.1

theorem explains_of_standing {wall : Time.Wall} {log₁ log : List Mark}
    (h₁ : Stirs (startingAt wall) log₁ w₁) (h : Stirs (w₁.stepTask t) log w) {key : CellKey}
    (sent : w₁.route a.mesh a.target = .ok key) {errand : Errand} {report : Report}
    (standing : Standing w₁ w t errand w₁.waiters.next a.ctx (.finished report)) :
    ∃ r, report = errand.reportResponse r ∧ Explains w₁ w t errand a log r := by
  cases standing with
  | @replied p reply =>
    refine ⟨.ok p, rfl, ?_⟩
    have unset : w₁.waiters.reply? w₁.waiters.next = none := by
      rw [Table.reply?, Table.get?_next]
      rfl
    have agrees := ((h₁.tail (.poll t)).trans h).agrees w₁.waiters.next
    have since : setsOn w₁.waiters.next (log₁ ++ [] ++ log) = setsOn w₁.waiters.next log := by
      rw [List.append_nil, setsOn, List.filterMap_append]
      exact congrArg (· ++ setsOn w₁.waiters.next log) (setsOn_eq_nil h₁ unset)
    rw [since] at agrees
    cases sets : setsOn w₁.waiters.next log with
    | nil =>
      rw [sets] at agrees
      cases reply.symm.trans agrees
    | cons first later =>
      rw [sets] at agrees
      obtain ⟨taken, holds, -⟩ := agrees
      cases reply.symm.trans holds
      exact .replied sent (sets.trans (by rw [← taken]))
  | @gaveUp e h => exact ⟨.error (.request e), rfl, .gaveUp sent h⟩

/-- **Requests and replies never cross**, in every order of what callers, cells and tasks do (that of any
run among them: `stirs_run`). A call that has its first turn makes a waiter of its own and puts one event
with it into one queue, or reports at once that there is no cell to take it. Whatever it reports later is
the first payload that was set on that waiter, or the end of its own context; nobody else who makes a
call waits for the waiter, and once the call is over a reply makes no difference to any call. -/
theorem requests_never_cross {wall : Time.Wall} {log₁ log : List Mark}
    (h₁ : Stirs (startingAt wall) log₁ w₁) (at_ : w₁.tasks.get? t = some task)
    (asks : task.errand.ask? w₁.now = some a) (fresh : task.progress = .fresh)
    (kept : task.doomed = false) (h : Stirs (w₁.stepTask t) log w) :
    Uncrossed w₁ w t task.errand a log := by
  have calls := Errand.calls_of_ask? asks
  have known : w₁.waiters.next.index < (w₁.stepTask t).waiters.size := by
    rw [size_stepTask_ask at_ asks fresh kept]
    exact Nat.lt_succ_self _
  have first : Stirs w₁ ([] ++ []) (w₁.stepTask t) := Stirs.refl.tail (.poll t)
  have all : Stirs (startingAt wall) (log₁ ++ [] ++ log) w := (h₁.tail (.poll t)).trans h
  have alone : w.Reserved w₁.waiters.next t :=
    h.reserved known (reserved_stepTask h₁.allStaged t)
  have unsent : ∀ err, w₁.route a.mesh a.target = .error err →
      w.report? t = some (task.errand.reportResponse (.error err)) := by
    intro err unrouted
    have ends := progress?_stepTask_ask at_ asks fresh kept
    rw [unrouted] at ends
    exact h.report?_kept (report?_of_progress? ends)
  have standing : ∀ key, w₁.route a.mesh a.target = .ok key →
      StandingAt w₁ w t task.errand w₁.waiters.next a.ctx :=
    fun key leads => first.standing h calls (standing_ask at_ asks fresh kept leads)
  have entered := acceptedBy_stepTask_ask at_ asks fresh kept
  constructor
  case own =>
    refine ⟨Table.get?_next _, fun same => ?_⟩
    have later := Nat.lt_of_lt_of_le known h.grows.waiters
    rw [← same] at later
    exact Nat.lt_irrefl _ later
  case event => exact requests_requestEvent w₁ a.topic a.values
  case sent =>
    intro key leads
    obtain ⟨m, -, hm, -, registered, -⟩ := route_ok leads
    refine ⟨(lookUp_eq hm _).trans registered, fun j => ?_⟩
    rw [entered, leads]
  case unsent =>
    intro err unrouted
    refine ⟨route_error unrouted, fun j => ?_, unsent err unrouted⟩
    rw [entered, unrouted, List.append_nil]
  case once =>
    cases leads : w₁.route a.mesh a.target with
    | error err =>
      obtain ⟨task', at', ends⟩ := report?_eq_some (unsent err leads)
      obtain ⟨task'', at'', same⟩ := (first.trans h).grows.tasks t task at_
      cases at'.symm.trans at''
      exact silent_stepTask at' (same ▸ calls) (by rw [Task.isBegun, ends])
    | ok key =>
      obtain ⟨task', at', same, stands⟩ := standing key leads
      exact silent_stepTask at' (same ▸ calls) stands.isBegun
  case result =>
    intro report reported
    cases leads : w₁.route a.mesh a.target with
    | error err =>
      cases reported.symm.trans (unsent err leads)
      exact ⟨.error err, rfl, .unsent leads⟩
    | ok key =>
      obtain ⟨task', at', -, stands⟩ := standing key leads
      obtain ⟨ended, at_end, ends⟩ := report?_eq_some reported
      cases at_end.symm.trans at'
      rw [ends] at stands
      exact explains_of_standing h₁ h leads stands
  case final => exact fun report log' w' reported later => later.report?_kept reported
  case alone => exact alone
  case late =>
    intro past p t₂ task₂ at₂ calls₂
    refine progress?_stepTask_answer calls₂ (all.allStaged t₂ task₂ at₂ calls₂) at₂ p ?_
    intro ctx waiting
    obtain rfl := alone t₂ task₂ ctx at₂ calls₂ waiting
    exact past ctx (by rw [progress?_of_get? at₂, waiting])

end Uncrossed

/-- A cell that replies twice is to be called twice, the first time with values that hold something where
the waiter belongs. -/
def calling : List (Move (Resident Actor)) := [
  .openMesh "mesh" (.ofMillis 1000),
  .start ⟨0⟩ ⟨"a"⟩ (.custom {
    rules := [⟨none, [.reply (.single (.int 1)), .reply (.single (.int 2))]⟩] }),
  .spawn (.request ⟨0⟩ ⟨"a"⟩ "ask" (.pairs [(Key.waiter, .int 7), ("k", .int 8)]) .background),
  .spawn (.request ⟨0⟩ ⟨"a"⟩ "ask" .empty .background)]

/-- The second call has its first turn, the cell handles both events, and both calls go on. -/
def replying : List (Move (Resident Actor)) := [
  .turn (.task ⟨1⟩), .turn (.cell ⟨0⟩), .turn (.cell ⟨0⟩), .turn (.task ⟨1⟩), .turn (.task ⟨0⟩)]

def called : World (Resident Actor) := (startingAt ⟨0, 0⟩).run calling

def answeredTwice : World (Resident Actor) := (called.stepTask ⟨0⟩).run replying

theorem requests_never_cross_answeredTwice : ∃ log p later,
    Stirs (called.stepTask ⟨0⟩) log answeredTwice ∧
    answeredTwice.report? ⟨0⟩ = some (.response (.ok p)) ∧ p.getInt? Key.default = some 1 ∧
    setsOn ⟨0⟩ log = (p, true) :: later ∧ answeredTwice.Reserved ⟨0⟩ ⟨0⟩ := by
  obtain ⟨log₁, h₁⟩ := stirs_run (startingAt ⟨0, 0⟩) calling
  obtain ⟨log, h⟩ := stirs_run (called.stepTask ⟨0⟩) replying
  have uncrossed : Uncrossed called answeredTwice ⟨0⟩ _ _ log :=
    requests_never_cross h₁ (t := ⟨0⟩) rfl rfl rfl rfl h
  have reported : ∃ p, answeredTwice.report? ⟨0⟩ = some (.response (.ok p)) ∧
      p.getInt? Key.default = some 1 := ⟨_, rfl, rfl⟩
  obtain ⟨p, reported, value⟩ := reported
  obtain ⟨r, same, explains⟩ := uncrossed.result _ reported
  cases same
  cases explains with
  | @replied _ _ later sent first => exact ⟨log, p, later, h, reported, value, first, uncrossed.alone⟩

end World

end EventMesh
