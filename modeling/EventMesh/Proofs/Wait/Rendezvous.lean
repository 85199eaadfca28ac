import EventMesh.Proofs.Wait.Cancellation
import EventMesh.Proofs.Wait.Poll

/-!
# A waiter brings those who wait and one payload together

The slot of a waiter is assigned once, and whoever waits for it is told. Main statements: of all that
was set on a waiter the first was taken and stays, and everything else was refused
(`Stirs.agrees`, `Stirs.reply?_kept`); a wait reports a payload only if it is the one of its waiter
(`Stirs.sound`); a task that has something to wait for no longer is ready, as long as time does not
go by unnoticed (`Stirs.alert`). `wait_is_rendezvous` puts them together with what each poll comes to.
-/

namespace EventMesh.World

open Time

variable {β : Type}

/-! ### The first payload -/

/-- What was set on a waiter, and whether it was taken. -/
def setsOn (v : WaiterId) (log : List Mark) : List (Payload × Bool) :=
  log.filterMap fun
    | .set v' p won => if v' = v then some (p, won) else none
    | _ => none

/-- What a change does to the slot of a waiter: nothing, or a payload is set on it and taken just if
the slot is empty. -/
theorem Change.sets {w : World β} {marks : List Mark} {side : Waits} (h : Change w marks side)
    (v : WaiterId) :
    setsOn v marks = [] ∧ side.waiters.reply? v = w.waiters.reply? v ∨
      ∃ p, setsOn v marks = [(p, (w.waiters.reply? v).isNone)] ∧
        side.waiters.reply? v = (w.waiters.reply? v).or (some p) := by
  cases h with
  | addWaiter => exact Or.inl ⟨rfl, Table.reply?_add w.waiters v⟩
  | @answer j known p =>
    rw [Table.reply?_set]
    by_cases hj : j = v
    · subst hj
      refine Or.inr ⟨p, ?_, if_pos ⟨rfl, known⟩⟩
      simp [setsOn, Table.isSet]
    · exact Or.inl ⟨by simp [setsOn, hj], if_neg fun both => hj both.1⟩
  | nothing | woke | addScene | refuse | write | derive | cancel | drop | pass | spawn | doom =>
    exact Or.inl ⟨rfl, rfl⟩

/-- So does a stir. -/
theorem Stir.sets {w w' : World β} {marks : List Mark} (h : Stir w marks w') (v : WaiterId) :
    setsOn v marks = [] ∧ w'.waiters.reply? v = w.waiters.reply? v ∨
      ∃ p, setsOn v marks = [(p, (w.waiters.reply? v).isNone)] ∧
        w'.waiters.reply? v = (w.waiters.reply? v).or (some p) := by
  rcases h.cases with ⟨t, rfl, rfl⟩ | change
  · exact Or.inl ⟨rfl, (spares_stepTask w t).slotReply? (.waiter v)⟩
  · exact change.sets v

/-- The slot of a waiter holds the first payload set on it, the only one that was taken. -/
def Agrees (w : World β) (v : WaiterId) : List (Payload × Bool) → Prop
  | [] => w.waiters.reply? v = none
  | (p, taken) :: later =>
    taken = true ∧ w.waiters.reply? v = some p ∧ ∀ s ∈ later, s.2 = false

theorem Stirs.agrees {wall : Wall} {log : List Mark} {w : World β}
    (h : Stirs (startingAt wall) log w) (v : WaiterId) : w.Agrees v (setsOn v log) := by
  induction h with
  | refl => rfl
  | @tail log marks w w' h s ih =>
    have split : setsOn v (log ++ marks) = setsOn v log ++ setsOn v marks := List.filterMap_append
    rw [split]
    rcases s.sets v with ⟨none_set, kept⟩ | ⟨p, one_set, filled⟩
    · rw [none_set, List.append_nil]
      cases sets : setsOn v log with
      | nil =>
        rw [sets] at ih
        exact kept.trans ih
      | cons first later =>
        rw [sets] at ih
        exact ⟨ih.1, kept.trans ih.2.1, ih.2.2⟩
    · rw [one_set]
      cases sets : setsOn v log with
      | nil =>
        rw [sets] at ih
        rw [show w.waiters.reply? v = none from ih] at filled ⊢
        exact ⟨rfl, filled, by simp⟩
      | cons first later =>
        rw [sets] at ih
        obtain ⟨taken, holds, refused⟩ := ih
        rw [holds] at filled ⊢
        refine ⟨taken, filled, fun s hs => ?_⟩
        rcases List.mem_append.mp hs with hs | hs
        · exact refused s hs
        · rw [List.mem_singleton.mp hs]
          rfl

theorem Stir.reply?_kept {w w' : World β} {marks : List Mark} (h : Stir w marks w') {v : WaiterId}
    {p : Payload} (hp : w.waiters.reply? v = some p) : w'.waiters.reply? v = some p := by
  rcases h.sets v with ⟨-, kept⟩ | ⟨q, -, filled⟩
  · rw [kept, hp]
  · rw [filled, hp]
    rfl

theorem Stirs.reply?_kept {w w' : World β} {log : List Mark} (h : Stirs w log w') {v : WaiterId}
    {p : Payload} (hp : w.waiters.reply? v = some p) : w'.waiters.reply? v = some p := by
  induction h with
  | refl => exact hp
  | tail _ s ih => exact s.reply?_kept ih

/-! ### Reports -/

/-- How far a wait for a waiter within a context may have come: it waits for just that, and brings back
no payload but the one of the waiter. -/
inductive Sound (w : World β) (v : WaiterId) (ctx : Context) : Progress → Prop
  | fresh : Sound w v ctx .fresh
  | waiting : Sound w v ctx (.waiting (.waiter v) ctx)
  | replied {p : Payload} (h : w.waiters.reply? v = some p) :
      Sound w v ctx (.finished (.reply (.ok p)))
  | expired (e : EventError) : Sound w v ctx (.finished (.reply (.error e)))
  | aborted : Sound w v ctx .aborted

theorem Sound.of_kept {w w' : World β} {v : WaiterId} {ctx : Context} {progress : Progress}
    (h : w.Sound v ctx progress)
    (kept : ∀ p, w.waiters.reply? v = some p → w'.waiters.reply? v = some p) :
    w'.Sound v ctx progress := by
  cases h with
  | fresh => exact .fresh
  | waiting => exact .waiting
  | replied h => exact .replied (kept _ h)
  | expired e => exact .expired e
  | aborted => exact .aborted

theorem Ends.sound {w : World β} {task : Task} {last : Progress} (ends : Ends w task last)
    {v : WaiterId} {ctx : Context} (errand : task.errand = .wait v ctx)
    (sound : w.Sound v ctx task.progress) : w.Sound v ctx last := by
  cases ends with
  | aborted => exact .aborted
  | @answered slot ctx' r waiting h =>
    rw [waiting] at sound
    cases sound
    rw [errand]
    cases r with
    | ok p => exact .replied (waitResult?_eq_ok h)
    | error e => exact .expired e
  | late waiting h =>
    rw [errand]
    exact .expired _
  | unsent sends err =>
    have other := sends ⟨v.index + 1⟩ ctx
    rw [errand] at other
    exact absurd (congrArg Handle.index other.1) (by simp)
  | watched h | slept h | reminded h | shutDown h =>
    rw [h] at sound
    cases sound

/-- The task, if it is a wait for a waiter, is sound. -/
def SoundAt (w : World β) (t : TaskId) : Prop :=
  ∀ task v ctx, w.tasks.get? t = some task → task.errand = .wait v ctx →
    w.Sound v ctx task.progress

theorem Piece.soundAt {t : TaskId} {w w' : World β} (h : Piece t w w') (sound : w.SoundAt t) :
    w'.SoundAt t := by
  intro task' v ctx at' errand
  have kept (p : Payload) (hp : w.waiters.reply? v = some p) : w'.waiters.reply? v = some p :=
    (h.spares.slotReply? (.waiter v)).trans hp
  have still (at_ : w.tasks.get? t = some task') : w'.Sound v ctx task'.progress :=
    (sound task' v ctx at_ errand).of_kept kept
  cases h with
  | beside waits ready =>
    exact still (by rwa [show w'.tasks = w.tasks from congrArg Waits.tasks waits] at at')
  | addWaiter => exact still at'
  | wait at_ fresh awaits =>
    rw [get?_setProgress at_] at at'
    cases at'
    rw [show _ = Errand.wait v ctx from errand] at awaits
    obtain ⟨rfl, rfl⟩ := awaits
    exact .waiting
  | waitFlag at_ fresh flag found =>
    rw [get?_setProgress (show (w.holdFlag _ _).tasks.get? t = _ from at_)] at at'
    cases at'
    cases flag.symm.trans errand
  | pause at_ fresh pauses =>
    rw [get?_setProgress at_] at at'
    cases at'
    rw [show _ = Errand.wait v ctx from errand] at pauses
    exact pauses.elim
  | @stop task last at_ live ends =>
    rw [get?_endTask at_] at at'
    cases at'
    exact (ends.sound errand (sound task v ctx at_ errand)).of_kept kept

theorem soundAt_pieces {t : TaskId} {w w' : World β} (h : Pieces t w w') (sound : w.SoundAt t) :
    w'.SoundAt t := by
  induction h with
  | refl => exact sound
  | tail _ piece ih => exact piece.soundAt ih

theorem Stirs.sound {wall : Wall} {log : List Mark} {w : World β}
    (h : Stirs (startingAt wall) log w) (t : TaskId) : w.SoundAt t := by
  induction h with
  | refl =>
    intro task v ctx at_ _
    cases at_
  | @tail log marks w w' h s ih =>
    intro task' v ctx at' errand
    rcases s.task at' with ⟨task, at_, same, came⟩ | ⟨-, fresh⟩ | polled
    · rw [came]
      exact (ih task v ctx at_ (same ▸ errand)).of_kept fun p hp => s.reply?_kept hp
    · rw [fresh]
      exact .fresh
    · subst polled
      exact soundAt_pieces (pieces_stepTask w t) ih task' v ctx at' errand

/-! ### Wake-ups -/

/-- Whether the clock went on since the last look at what is due. -/
def lagsAfter (late : Bool) : Mark → Bool
  | .passed => true
  | .woke => false
  | .set .. | .stored .. | .derived .. | .cancelled _ | .dropped _ => late

/-- Whether the last look at what is due was before the clock last went on. -/
def lags (log : List Mark) : Bool := log.foldl lagsAfter false

/-- Whether a task that has come so far has something to do at an instant: its first step, or the end
of its wait. -/
def Due (w : World β) (at_ : Instant) : Progress → Prop
  | .fresh => True
  | .waiting slot ctx => (w.slotReply? slot).isSome ∨ (ctx.err? w.scopes at_).isSome
  | _ => False

/-- All tasks that had something to do at an instant that is not to come are ready. -/
structure Alert (w : World β) (at_ : Instant) : Prop where
  past : at_ ≤ w.now
  ready : ∀ t task, w.tasks.get? t = some task → w.Due at_ task.progress → .task t ∈ w.ready

/-- A context that has ended stays so when time goes by. -/
theorem err?_later {ctx : Context} {scopes : Scopes} {at_ now : Instant} (h : at_ ≤ now)
    (ended : (ctx.err? scopes at_).isSome) : (ctx.err? scopes now).isSome := by
  unfold Context.err? at ended ⊢
  split
  · rfl
  · rename_i live
    rw [if_neg live] at ended
    split at ended
    · rename_i due
      obtain ⟨deadline, hd, passed⟩ := (Option.any_eq_true ..).mp due
      rw [if_pos]
      · rfl
      · have passed : deadline.nanos ≤ at_.nanos := of_decide_eq_true passed
        rw [hd]
        exact decide_eq_true (Nat.le_trans passed h)
    · cases ended

/-- What is due at an instant that is not to come is due now. -/
theorem Due.now {w : World β} {at_ : Instant} {progress : Progress} (h : w.Due at_ progress)
    (past : at_ ≤ w.now) : w.Due w.now progress := by
  cases progress with
  | waiting slot ctx => exact h.imp id (err?_later past)
  | fresh | watching | sleeping | joining | finished | aborted => exact h

theorem isSome_waitResult? (w : World β) (slot : Slot) (ctx : Context) :
    (w.waitResult? slot ctx).isSome ↔
      (w.slotReply? slot).isSome ∨ (ctx.err? w.scopes w.now).isSome := by
  unfold waitResult?
  split
  · rename_i h
    simp [h]
  · rename_i h
    simp [h, World.err?]

/-- What was ready or is ripe is ready after a wake-up. -/
theorem mem_ready_wake {w : World β} {t : TaskId} {task : Task} (at_ : w.tasks.get? t = some task)
    (ripe : w.isRipe task = true) : .task t ∈ w.wake.ready := by
  have listed : t ∈ w.tasks.handlesWhere w.isRipe := by
    refine List.mem_filterMap.mpr ⟨t.index, List.mem_range.mpr (Table.index_lt_of_get? at_), ?_⟩
    have at_ : w.tasks.rows[t.index]? = some task := at_
    rw [at_]
    simp [ripe]
  have enlisting : ∀ (ts : List TaskId) (w : World β), t ∈ ts →
      .task t ∈ (ts.foldl (fun w t => w.enlist (.task t)) w).ready := by
    intro ts
    induction ts with
    | nil => simp
    | cons j ts ih =>
      intro w ht
      rcases List.mem_cons.mp ht with rfl | ht
      · exact (clears_confined.foldl (fun w t => confined_enlist w (.task t)) ts _).ready t
          ((mem_enlist w _ _).mpr (Or.inr rfl))
      · exact ih _ ht
  exact enlisting _ w listed

/-- What is due depends on the slots and on which scopes are cancelled. -/
theorem Due.of_change {w w' : World β} {at_ : Instant} {progress : Progress}
    (h : w'.Due at_ progress) (replies : ∀ slot, w'.slotReply? slot = w.slotReply? slot)
    (scopes : ∀ s, w'.scopes.isCancelled s = true → w.scopes.isCancelled s = true) :
    w.Due at_ progress := by
  cases progress with
  | waiting slot ctx =>
    refine h.imp (fun filled => replies slot ▸ filled) fun ended => ?_
    unfold Context.err? at ended ⊢
    split
    · rfl
    · rename_i live
      rw [if_neg] at ended
      · exact ended
      · intro cancelled
        obtain ⟨s, hs, hc⟩ := (Option.any_eq_true ..).mp cancelled
        exact live ((Option.any_eq_true ..).mpr ⟨s, hs, scopes s hc⟩)
  | fresh | watching | sleeping | joining | finished | aborted => exact h

namespace Alert

variable {w w' : World β} {at_ : Instant}

/-- A change of tasks that are ready then, which makes no other due, leaves the world alert. -/
theorem of_tasks (h : Alert w at_) (now : w'.now = w.now)
    (replies : ∀ slot, w'.slotReply? slot = w.slotReply? slot) (scopes : w'.scopes = w.scopes)
    (tasks : ∀ t, .task t ∈ w'.ready ∨ w'.tasks.get? t = w.tasks.get? t)
    (ready : ∀ t, .task t ∈ w.ready → .task t ∈ w'.ready) : Alert w' at_ where
  past := now ▸ h.past
  ready t task found due := by
    rcases tasks t with already | same
    · exact already
    · exact ready t (h.ready t task (same ▸ found) (due.of_change replies fun _ => scopes ▸ id))

/-- A change that makes nothing due leaves the world alert. -/
theorem of_change (h : Alert w at_) (now : w.now ≤ w'.now)
    (replies : ∀ slot, w'.slotReply? slot = w.slotReply? slot)
    (scopes : ∀ s, w'.scopes.isCancelled s = true → w.scopes.isCancelled s = true)
    (tasks : w'.tasks = w.tasks) (ready : ∀ t, .task t ∈ w.ready → .task t ∈ w'.ready) :
    Alert w' at_ where
  past := Nat.le_trans h.past now
  ready t task found due := ready t (h.ready t task (tasks ▸ found) (due.of_change replies scopes))

theorem apart (h : Alert w at_) (ha : Apart w w') : Alert w' at_ := by
  refine h.of_change (Nat.le_of_eq (by rw [ha.now])) ha.slotReply? (fun s => ?_) ha.tasks ha.ready
  rw [ha.scopes]
  exact id

/-- After a wake-up all that is due is ready, if all that is yet to begin was. -/
theorem wake (fresh : ∀ t task, w.tasks.get? t = some task → task.progress = .fresh →
    .task t ∈ w.ready) : Alert w.wake w.wake.now := by
  have woken := (confined_wake w).apart
  refine ⟨Nat.le_refl _, fun t task found due => ?_⟩
  have due := due.of_change (w := w) woken.slotReply? (fun s => woken.scopes ▸ id)
  rw [woken.tasks] at found
  rw [woken.now] at due
  cases hp : task.progress with
  | fresh => exact woken.ready t (fresh t task found hp)
  | waiting slot ctx =>
    refine mem_ready_wake found ?_
    rw [hp] at due
    rw [isRipe, hp]
    exact (isSome_waitResult? w slot ctx).mpr due
  | watching | sleeping | joining | finished | aborted =>
    rw [hp] at due
    exact due.elim

/-- All that is yet to begin is ready. -/
theorem fresh (h : Alert w at_) (t : TaskId) (task : Task) (found : w.tasks.get? t = some task)
    (hp : task.progress = .fresh) : .task t ∈ w.ready :=
  h.ready t task found (by rw [hp]; trivial)

/-- A task that is spawned is ready. -/
theorem spawn (h : Alert w at_) (errand : Errand) : Alert (w.spawn errand).2 at_ := by
  have waits := waits_spawn w errand
  refine h.of_tasks (congrArg Waits.now waits)
    (slotReply?_congr (congrArg Waits.waiters waits) (congrArg Waits.flags waits))
    (congrArg Waits.scopes waits) (fun t => ?_)
    fun t ht => (mem_ready_spawn w errand t).mpr (Or.inl ht)
  rw [mem_ready_spawn, show (w.spawn errand).2.tasks = _ from congrArg Waits.tasks waits,
    Table.get?_add]
  split
  · rename_i ht
    exact Or.inl (Or.inr ht)
  · exact Or.inr rfl

/-- So is a task that is given up. -/
theorem abort (h : Alert w at_) (t : TaskId) : Alert (w.abort t) at_ := by
  rcases abort_cases w t with aborted | aborted
  · rwa [aborted]
  · rw [aborted]
    have enlisted := (confined_enlist
      { w with tasks := w.tasks.modify t fun task => { task with doomed := true } } (.task t)).apart
    refine h.of_tasks enlisted.now enlisted.slotReply? enlisted.scopes (fun j => ?_)
      fun j hj => enlisted.ready j hj
    rw [mem_enlist, enlisted.tasks, Table.get?_modify]
    split
    · rename_i hj
      exact Or.inl (Or.inr (by rw [hj]))
    · exact Or.inr rfl

/-- The turn of a task leaves it with nothing due. -/
theorem poll (h : Alert w at_) (t : TaskId) : Alert (w.stepTask t) at_ := by
  have spared := spares_stepTask w t
  refine ⟨by rw [spared.now]; exact h.past, fun j task found due => ?_⟩
  by_cases hj : j = t
  · subst hj
    have stays := rested_stepTask w j task.progress (progress?_of_get? found)
    have due := due.now (by rw [spared.now]; exact h.past)
    cases hp : task.progress with
    | fresh =>
      rw [hp] at stays
      exact stays.elim
    | waiting slot ctx =>
      rw [hp] at stays due
      have some_ := (isSome_waitResult? (w.stepTask j) slot ctx).mpr due
      rw [show (w.stepTask j).waitResult? slot ctx = none from stays] at some_
      cases some_
    | watching | sleeping | joining | finished | aborted =>
      rw [hp] at due
      exact due.elim
  · refine spared.ready j hj (h.ready j task (spared.tasks j hj ▸ found) ?_)
    exact due.of_change spared.slotReply? (fun s => spared.scopes ▸ id)

end Alert

/-- A stir leaves the world alert, and up to date where it was, unless the clock went on. -/
theorem Stir.alert {w w' : World β} {marks : List Mark} (h : Stir w marks w') {at_ : Instant}
    {late : Bool} (alert : Alert w at_) (upToDate : late = false → at_ = w.now) :
    ∃ at', Alert w' at' ∧ (marks.foldl lagsAfter late = false → at' = w'.now) := by
  cases h with
  | apart ha => exact ⟨at_, alert.apart ha, fun hl => (upToDate hl).trans ha.now.symm⟩
  | addWaiter =>
    refine ⟨at_, alert.of_change (Nat.le_refl _) (fun slot => ?_) (fun _ => id) rfl fun _ => id,
      upToDate⟩
    cases slot with
    | waiter v => exact Table.reply?_add w.waiters v
    | flag f => rfl
  | answer known p => exact ⟨_, .wake alert.fresh, fun _ => rfl⟩
  | addScene =>
    exact ⟨at_, alert.of_change (Nat.le_refl _) (fun _ => rfl) (fun _ => id) rfl fun _ => id,
      upToDate⟩
  | store known key p =>
    obtain ⟨board, found⟩ := Option.isSome_iff_exists.mp known
    rcases store_cases found key p with ⟨q, -, stored⟩ | ⟨-, stored⟩
    · rw [stored]
      exact ⟨at_, alert, upToDate⟩
    · rw [stored]
      exact ⟨_, .wake alert.fresh, fun _ => rfl⟩
  | derive ctx =>
    exact ⟨at_, alert.of_change (Nat.le_refl _) (fun _ => rfl)
      (fun _ => Scopes.isCancelled_of_derive) rfl fun _ => id, upToDate⟩
  | cancel s => exact ⟨_, .wake alert.fresh, fun _ => rfl⟩
  | drop s =>
    refine ⟨at_, alert.of_change (Nat.le_refl _) (fun _ => rfl) (fun j => ?_) rfl fun _ => id,
      upToDate⟩
    exact (Scopes.isCancelled_drop w.scopes s j ▸ id)
  | pass nanos =>
    exact ⟨at_, alert.of_change (Clock.mono_le_advance _ _) (fun _ => rfl) (fun _ => id) rfl
      fun _ => id, fun hl => by cases hl⟩
  | wake => exact ⟨_, .wake alert.fresh, fun _ => rfl⟩
  | spawn errand =>
    have now := congrArg Waits.now (waits_spawn w errand)
    exact ⟨at_, alert.spawn errand, fun hl => (upToDate hl).trans now.symm⟩
  | abort t =>
    refine ⟨at_, alert.abort t, fun hl => (upToDate hl).trans ?_⟩
    rcases abort_cases w t with aborted | aborted
    · rw [aborted]
    · rw [aborted, (confined_enlist _ _).apart.now]
      rfl
  | poll t =>
    exact ⟨at_, alert.poll t, fun hl => (upToDate hl).trans (spares_stepTask w t).now.symm⟩

/-- **No wake-up is lost**: at every time all that was due at some instant is ready, and at the
present instant unless the clock went on since. -/
theorem Stirs.alert {wall : Wall} {log : List Mark} {w : World β}
    (h : Stirs (startingAt wall) log w) :
    ∃ at_, Alert w at_ ∧ (lags log = false → at_ = w.now) := by
  induction h with
  | refl =>
    refine ⟨_, ⟨Nat.le_refl _, fun t task found _ => ?_⟩, fun _ => rfl⟩
    cases found
  | tail _ s ih =>
    obtain ⟨at_, alert, upToDate⟩ := ih
    rw [lags, List.foldl_append]
    exact s.alert alert upToDate

/-! ### Waits -/

/-- In a settled world that is up to date no wait goes on whose slot is filled or whose context has
ended, and none is yet to begin. -/
theorem Stirs.settled {wall : Wall} {log : List Mark} {w : World β}
    (h : Stirs (startingAt wall) log w) (upToDate : lags log = false) (settled : w.isSettled = true)
    {t : TaskId} {task : Task} (at_ : w.tasks.get? t = some task) :
    task.progress ≠ .fresh ∧ ∀ slot ctx, task.progress = .waiting slot ctx →
      w.slotReply? slot = none ∧ w.err? ctx = none := by
  obtain ⟨now, alert, present⟩ := h.alert
  obtain rfl := present upToDate
  have idle : ¬w.Due w.now task.progress := by
    intro due
    have ready := alert.ready t task at_ due
    rw [List.isEmpty_iff.mp settled] at ready
    cases ready
  refine ⟨fun fresh => idle (by rw [fresh]; trivial), fun slot ctx waiting => ?_⟩
  rw [waiting] at idle
  obtain ⟨empty, live⟩ := not_or.mp idle
  exact ⟨Option.not_isSome_iff_eq_none.mp empty, Option.not_isSome_iff_eq_none.mp live⟩

/-- **A waiter is a rendezvous**, in every order of what is set, waited for, cancelled, and polled. Of
what was set on it the first was taken, stays, and all else was refused. A wait whose first poll finds
its context ended reports that; any other poll reports the payload, else the end of the context, else
goes on. So whoever reports a payload reports the same, and once a world that is up to date is
settled, no wait goes on that could end. -/
theorem wait_is_rendezvous {wall : Wall} {log : List Mark} {w : World β}
    (h : Stirs (startingAt wall) log w) (v : WaiterId) :
    w.Agrees v (setsOn v log) ∧
    (∀ p log' w', w.waiters.reply? v = some p → Stirs w log' w' → w'.waiters.reply? v = some p) ∧
    (∀ t task ctx, w.tasks.get? t = some task → task.errand = .wait v ctx →
      (task.doomed = false → task.progress = .fresh →
        (w.stepTask t).progress? t = some (match w.err? ctx, w.waiters.reply? v with
          | some e, _ => .finished (.reply (.error e))
          | none, some p => .finished (.reply (.ok p))
          | none, none => .waiting (.waiter v) ctx)) ∧
      (task.progress = .fresh ∨ task.progress = .waiting (.waiter v) ctx ∨ task.isOver = true) ∧
      ∀ p, task.progress = .finished (.reply (.ok p)) → w.waiters.reply? v = some p) ∧
    (∀ t task ctx, w.tasks.get? t = some task → task.progress = .waiting (.waiter v) ctx →
      (task.doomed = false →
        (w.stepTask t).progress? t = some (match w.waiters.reply? v, w.err? ctx with
          | some p, _ => .finished (task.errand.reportWait (.ok p))
          | none, some e => .finished (task.errand.reportWait (.error e))
          | none, none => .waiting (.waiter v) ctx)) ∧
      (lags log = false → w.isSettled = true →
        w.waiters.reply? v = none ∧ w.err? ctx = none)) ∧
    (∀ t task, w.tasks.get? t = some task → lags log = false → w.isSettled = true →
      task.progress ≠ .fresh) := by
  refine ⟨h.agrees v, fun p log' w' hp later => later.reply?_kept hp,
    fun t task ctx at_ errand => ⟨fun kept fresh => ?_, ?_, ?_⟩,
    fun t task ctx at_ waiting => ⟨fun kept => ?_, fun upToDate settled => ?_⟩,
    fun t task at_ upToDate settled => (h.settled upToDate settled at_).1⟩
  · rw [progress?_stepTask_wait at_ kept fresh errand, waitResult?_eq, errand, slotReply?]
    cases w.err? ctx <;> cases w.waiters.reply? v <;> rfl
  · have sound := h.sound t task v ctx at_ errand
    rw [Task.isOver]
    generalize task.progress = progress at sound
    cases sound with
    | fresh => exact Or.inl rfl
    | waiting => exact Or.inr (Or.inl rfl)
    | replied | expired | aborted => exact Or.inr (Or.inr rfl)
  · intro p replied
    have sound := h.sound t task v ctx at_ errand
    rw [replied] at sound
    cases sound with
    | replied h => exact h
  · rw [progress?_stepTask_waiting at_ kept waiting, waitResult?_eq, slotReply?]
    cases w.waiters.reply? v <;> cases w.err? ctx <;> rfl
  · exact (h.settled upToDate settled at_).2 _ _ waiting

/-- A wait that had its first turn before two payloads were set. -/
def met : World Unit :=
  let w : World Unit := (startingAt ⟨0, 0⟩).addWaiter.2
  let w := ((w.spawn (.wait ⟨0⟩ .background)).2.stepTask ⟨0⟩)
  ((w.answer ⟨0⟩ (.mk 0 [])).2.answer ⟨0⟩ (.mk 1 [])).2

theorem wait_is_rendezvous_met :
    Stirs (startingAt ⟨0, 0⟩) [.set ⟨0⟩ (.mk 0 []) true, .set ⟨0⟩ (.mk 1 []) false] met ∧
      met.waiters.reply? ⟨0⟩ = some (.mk 0 []) ∧
      (met.stepTask ⟨0⟩).progress? ⟨0⟩ = some (.finished (.reply (.ok (.mk 0 [])))) := by
  have stirs : Stirs (startingAt ⟨0, 0⟩)
      [.set ⟨0⟩ (.mk 0 []) true, .set ⟨0⟩ (.mk 1 []) false] met :=
    ((((Stirs.refl.tail .addWaiter).tail (.spawn (.wait ⟨0⟩ .background))).tail (.poll ⟨0⟩)).tail
      (.answer rfl (.mk 0 []))).tail (.answer rfl (.mk 1 []))
  obtain ⟨⟨-, holds, -⟩, -, -, later, -⟩ := wait_is_rendezvous stirs ⟨0⟩
  have polled := (later ⟨0⟩ _ .background rfl rfl).1 rfl
  rw [holds] at polled
  exact ⟨stirs, holds, polled⟩

end EventMesh.World
