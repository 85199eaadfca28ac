import EventMesh.Proofs.Mesh.Run

/-!
# Settling

How a world comes to rest: `Turns` says that so many turns of the oldest ready job lead from one world
to another. Main statements: a world from which some turns, one for each event in a queue and some more,
lead to one at rest settles there (`Turns.settle`), and who waits for a report that is there by then has
it at once (`await_of_report`). To find such turns: what handling an event comes to (`handle_of_done`),
who wakes up (`wake_of_one`), and time that goes by while nobody is due (`elapse_of_still`).
-/

namespace EventMesh.World

variable {β : Type} [Behavior β] {w w₁ w₂ : World β} {n m : Nat}

/-- So many turns, each of the oldest ready job. -/
inductive Turns : Nat → World β → World β → Prop
  | none (w : World β) : Turns 0 w w
  | turn {w w' : World β} {n : Nat} {j : Job} {rest : List Job} (ready : w.ready = j :: rest)
      (later : Turns n (w.turn j) w') : Turns (n + 1) w w'

namespace Turns

theorem trans (h : Turns n w w₁) (h' : Turns m w₁ w₂) : Turns (n + m) w w₂ := by
  induction h with
  | none w => rwa [Nat.zero_add]
  | turn ready _ ih =>
    rw [Nat.add_right_comm]
    exact .turn ready (ih h')

/-- A turn that leads to a world known otherwise, then the others. -/
theorem step {j : Job} {rest : List Job} (ready : w.ready = j :: rest) (turned : w.turn j = w₁)
    (later : Turns n w₁ w₂) : Turns (n + 1) w w₂ :=
  .turn ready (turned ▸ later)

theorem settleWithin (h : Turns n w w₁) (m : Nat) :
    World.settleWithin (n + m) w = World.settleWithin m w₁ := by
  induction h with
  | none w => rw [Nat.zero_add]
  | turn ready _ ih =>
    rw [Nat.add_right_comm, World.settleWithin, ready]
    exact ih

end Turns

theorem settleWithin_of_rest (rest : w.ready = []) (n : Nat) : settleWithin n w = w := by
  cases n with
  | zero => rfl
  | succ n => rw [settleWithin, rest]

/-- **A world settles where turns lead that leave nothing to do.** -/
theorem Turns.settle (h : Turns n w w₁) (rest : w₁.ready = []) (few : n ≤ patience + w.backlog) :
    w.settle = w₁ := by
  obtain ⟨m, enough⟩ := Nat.exists_eq_add_of_le few
  rw [World.settle, enough, h.settleWithin, settleWithin_of_rest rest]

/-- A report that is there when the world has settled is awaited no longer. -/
theorem await_of_report {ts : List TaskId} {t : TaskId} (ht : t ∈ ts)
    (reported : (w.settle.report? t).isSome = true) (stops : Nat) :
    await ts (stops + 1) w = w.settle := by
  have some_report : (ts.any fun t => (w.settle.report? t).isSome) = true :=
    List.any_eq_true.mpr ⟨t, ht, reported⟩
  simp only [await, some_report, if_true]

/-- What handling an event comes to, unless the call panics. -/
theorem handle_of_calm {key : CellKey} {resident next : β} {e : Event} {outcome : Outcome}
    (performed : perform (Behavior.process resident e)
      (w.modifyCell key fun c => { c with queue := c.queue.tail }) = (next, outcome, w₁))
    (calm : ∀ p, outcome ≠ .panicked p) :
    w.handle key resident e = w₁.modifyCell key (·.after (.process e outcome) next) := by
  cases outcome with
  | done | failed => simp only [handle, performed]
  | panicked p => exact absurd rfl (calm p)

/-- What it comes to if the call succeeds. -/
theorem handle_of_done {key : CellKey} {resident next : β} {e : Event}
    (performed : perform (Behavior.process resident e)
      (w.modifyCell key fun c => { c with queue := c.queue.tail }) = (next, .done, w₁)) :
    w.handle key resident e = w₁.modifyCell key (·.after (.process e .done) next) :=
  handle_of_calm performed nofun

/-! ### Waking -/

omit [Behavior β]

theorem wake_of_none (h : w.tasks.handlesWhere w.isRipe = []) : wake w = w := by
  rw [wake, h]
  rfl

theorem wake_of_one {t : TaskId} (h : w.tasks.handlesWhere w.isRipe = [t]) :
    wake w = w.enlist (.task t) := by
  rw [wake, h]
  rfl

/-- A task that is alone wakes up when it can. -/
theorem wake_of_alone {task : Task} (alone : w.tasks = ⟨#[task]⟩) (ripe : w.isRipe task = true)
    (absent : .task ⟨0⟩ ∉ w.ready) : wake w = { w with ready := w.ready ++ [.task ⟨0⟩] } := by
  have one : w.tasks.handlesWhere w.isRipe = [⟨0⟩] := by
    rw [alone]
    show List.filterMap _ [0] = _
    simp [ripe]
  exact (wake_of_one one).trans (if_neg absent)

/-! ### Letting time go by -/

/-- A sleep that takes any time at all is not over when it begins. -/
theorem not_wakeTime_le {span : Time.Duration} (pos : 0 < span.nanos) :
    ¬ w.wakeTime span ≤ w.now := by
  unfold wakeTime Time.Instant.add?
  by_cases representable : w.now.nanos + span.nanos < Time.Instant.bound
  · rw [if_pos representable]
    exact Nat.not_le.mpr (Nat.lt_add_of_pos_right pos)
  · rw [if_neg representable]
    exact Nat.not_le.mpr (Nat.lt_add_of_pos_right (by decide))

/-- A task that waits alone decides when time stops next. -/
theorem nextTick?_of_alone {task : Task} {due : Time.Instant} (alone : w.tasks.rows.toList = [task])
    (waits : task.due? = some due) : w.nextTick? =
      some (max 1 ((due.since w.now + (nanosPerMilli - 1)) / nanosPerMilli)) := by
  rw [nextTick?, alone, List.filterMap_cons_some waits, List.filterMap_nil, List.foldl_cons,
    List.foldl_nil]
  dsimp only
  rw [Option.elim_none]

variable [Behavior β]

/-- Time goes by in one go if nothing is due before it is over. -/
theorem elapse_of_still {ms : Nat} (still : ∀ ticks, w.nextTick? = some ticks → ms < ticks)
    (stops : Nat) : elapse stops ms w = w.skip ms := by
  cases stops with
  | zero => rfl
  | succ stops =>
    rw [elapse]
    cases next : w.nextTick? with
    | none => rfl
    | some ticks => exact if_neg (Nat.not_le.mpr (still ticks next))

/-- Time stops where something is due. -/
theorem elapse_of_due {ms ticks : Nat} (next : w.nextTick? = some ticks) (due : ticks ≤ ms)
    (stops : Nat) : elapse (stops + 1) ms w = elapse stops (ms - ticks) (w.pass ticks) := by
  rw [elapse, next]
  exact if_pos due

end EventMesh.World
