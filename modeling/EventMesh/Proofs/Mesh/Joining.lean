import EventMesh.Behavior.Actor
import EventMesh.Proofs.Mesh.Agenda
import EventMesh.Proofs.Mesh.Shutdown
import EventMesh.Proofs.Mesh.Succession

/-!
# Joining

What a shutdown waits for. A mesh that is not stopping keeps a list on which every loop of it that goes
on is found (`loopsAmong_steps`); the first shutdown takes the list away with it, and no loop comes to
go on that is not on it (`LoopsAmong.steps`), so that none goes on once all on the list are over. Main
statement: when the shutdown that was the first to begin comes back, each loop of the mesh has run to
its end (`stop_joins_every_loop`). Another one that begins before that finds an empty list and comes back
at once.
-/

namespace EventMesh

namespace Cell

variable {β : Type} {hand next : Hand} {c c' : Cell β}

/-- A loop goes on that went on before, or its incarnation has just been let in. -/
theorem Befell.going (h : Befell hand c next c') (going : c'.phase = .running ∨ c'.phase = .draining) :
    (c.phase = .running ∨ c.phase = .draining) ∨ c.phase = .starting ∧ c'.phase = .running := by
  cases h with
  | spared => exact Or.inl going
  | accepted => exact Or.inl going
  | closed =>
    refine Or.inl ?_
    unfold Cell.close at going
    split at going
    · rename_i hp
      exact Or.inl (by simpa using hp)
    · exact going
  | turnedAway => rcases going with hp | hp <;> cases hp
  | letIn _ hp => exact Or.inr ⟨hp, rfl⟩
  | worked h =>
    cases h with
    | brokeOff => rcases going with hp | hp <;> cases hp
    | take | handled | recovered | terminated => exact Or.inl going
  | left h =>
    have ended := h.ended.1
    rw [ended] at going
    rcases going with hp | hp <;> cases hp

theorem isOver_of_going (going : c.phase = .running ∨ c.phase = .draining) : c.isOver = false := by
  rcases going with hp | hp <;> rw [isOver, hp] <;> rfl

/-- The loop of an incarnation has run to its end: it handled all that it accepted unless a recovery
failed or panicked, and made its last call unless a recovery panicked. -/
structure Joined (c : Cell β) : Prop where
  finished : c.isOver = true
  handled : c.Recovered → c.handled = c.accepted
  terminated : (∀ fault p, Call.recover fault (.panicked p) ∉ c.calls) →
    ∃ before outcome, c.calls = before ++ [.terminate outcome] ∧ ∀ o, Call.terminate o ∉ before

end Cell

namespace World

open Function Time

variable {β : Type} {w w' : World β} {hand hand' : CellKey → Hand} {mesh : MeshId} {key : CellKey}
  {c : Cell β} {loops : List CellKey}

/-! ### The list of loops -/

/-- Every loop of the mesh that goes on is on the list. -/
def LoopsAmong (w : World β) (mesh : MeshId) (loops : List CellKey) : Prop :=
  ∀ key c, w.cells.get? key = some c → c.mesh = mesh → c.phase = .running ∨ c.phase = .draining →
    key ∈ loops

/-- A loop that goes on went on a step ago, or its incarnation was let in by that step. -/
theorem going_before (coherent : Each Cell.Coherent w hand) (s : Step w hand w' hand') {c' : Cell β}
    (hc' : w'.cells.get? key = some c') (going : c'.phase = .running ∨ c'.phase = .draining) :
    ∃ c, w.cells.get? key = some c ∧ c.mesh = c'.mesh ∧
      ((c.phase = .running ∨ c.phase = .draining) ∨ c.phase = .starting ∧ c'.phase = .running) := by
  rcases aged_or_born coherent s hc' with ⟨c, hc, older⟩ | ⟨starting, -⟩
  · obtain ⟨c₁, hc₁, befell⟩ := befell_step s hc
    cases hc'.symm.trans hc₁
    exact ⟨c, hc, older.mesh.symm, befell.going going⟩
  · rw [starting] at going
    rcases going with hp | hp <;> cases hp

namespace LoopsAmong

/-- No loop comes to go on in a mesh that is closed after the step. -/
theorem step (among : w.LoopsAmong mesh loops) (coherent : Each Cell.Coherent w hand)
    (s : Step w hand w' hand') (closed : w'.Closed mesh) (orderly : w'.Orderly) :
    w'.LoopsAmong mesh loops := by
  intro key c' hc' of_mesh going
  obtain ⟨c, hc, same, going | ⟨-, running⟩⟩ := going_before coherent s hc' going
  · exact among key c hc (same.trans of_mesh) going
  · exact absurd running (closed.not_running orderly hc' of_mesh)

theorem steps {wall : Wall} (past : Steps (startingAt wall) atRest w hand) (closed : w.Closed mesh)
    (among : w.LoopsAmong mesh loops) (h : Steps w hand w' hand') : w'.LoopsAmong mesh loops := by
  induction h with
  | refl => exact among
  | tail before s ih =>
    exact ih.step ((past.trans before).each Cell.Coherent.invariant) s
      (closed.steps (before.tail s)) (orderly_steps (past.trans (before.tail s)))

/-- If all loops on the list are over, none goes on. -/
theorem of_all_over (among : w.LoopsAmong mesh loops) (finished : loops.all w.isOver = true) :
    w.LoopsAmong mesh [] := by
  intro key c hc of_mesh going
  have past := List.all_eq_true.mp finished key (among key c hc of_mesh going)
  rw [isOver, hc, Option.all_some, Cell.isOver_of_going going] at past
  cases past

end LoopsAmong

/-- A mesh that is not stopping after a step keeps the loops on its list that go on, and puts on it
whoever was let in. -/
theorem loopsAmong_step (coherent : Each Cell.Coherent w hand) (numbered : w.Numbered)
    (orderly : w.Orderly) (s : Step w hand w' hand') (orderly' : w'.Orderly)
    (among : ∀ m, w.meshes.get? mesh = some m → m.stopping = false → w.LoopsAmong mesh m.loops)
    {m' : Mesh} (hm' : w'.meshes.get? mesh = some m') (serving : m'.stopping = false) :
    w'.LoopsAmong mesh m'.loops := by
  intro key c' hc' of_mesh going
  obtain ⟨c, hc, same, before⟩ := going_before coherent s hc' going
  obtain ⟨m, hm, -⟩ := numbered.given key c hc
  rw [same, of_mesh] at hm
  obtain ⟨m₁, hm₁, befell⟩ := upkept_step s mesh m hm
  cases hm'.symm.trans hm₁
  rcases before with went_on | ⟨starting, running⟩
  · have served : m.stopping = false :=
      Bool.eq_false_iff.mpr fun begun => by simp [befell.stopping begun] at serving
    have live : w.isOver key = false := by
      rw [isOver, hc, Option.all_some, Cell.isOver_of_going went_on]
    exact befell.mem_loops serving (among m hm served key c hc (same.trans of_mesh) went_on) live
  · have named := orderly'.listed key c' hc' running
    rw [of_mesh, lookUp_eq hm'] at named
    refine befell.mem_loops_of_named named fun already => ?_
    rw [← lookUp_eq hm] at already
    obtain ⟨c₀, hc₀, -, -, bound⟩ := orderly.found mesh c'.id key already
    cases hc.symm.trans hc₀
    rw [starting] at bound
    rcases bound with hp | hp <;> cases hp

/-- **A mesh that is not stopping has every loop that goes on on its list.** -/
theorem loopsAmong_steps {wall : Wall} (h : Steps (startingAt wall) atRest w hand) :
    ∀ {m : Mesh}, w.meshes.get? mesh = some m → m.stopping = false → w.LoopsAmong mesh m.loops := by
  induction h with
  | refl =>
    intro m hm
    rw [startingAt, Table.get?_empty] at hm
    cases hm
  | tail before s ih =>
    intro m' hm' serving
    exact loopsAmong_step (before.each Cell.Coherent.invariant) (numbered_steps before)
      (orderly_steps before) s (orderly_steps (before.tail s)) (fun _ => ih) hm' serving

/-! ### A task that waits for the loops of a list -/

/-- How far a task has come that waits for the loops of a list. -/
inductive Joins (w : World β) (mesh : MeshId) (loops : List CellKey) : Progress → Prop
  | waiting : Joins w mesh loops (.joining loops)
  | aborted : Joins w mesh loops .aborted
  /-- It came back, and no loop of the mesh goes on. -/
  | back (none_left : w.LoopsAmong mesh []) : Joins w mesh loops (.finished .shutDown)

/-- The task is there and waits for the loops of a list, or did. -/
def JoinsAt (w : World β) (t : TaskId) (mesh : MeshId) (loops : List CellKey) : Prop :=
  ∃ task, w.tasks.get? t = some task ∧ w.Joins mesh loops task.progress

section Task

variable {t : TaskId} {task : Task}

/-- A turn of a task that waits for loops: it goes on to wait, or comes back since all are over. -/
theorem resume_joining (at_ : w.tasks.get? t = some task) (joining : task.progress = .joining loops) :
    ∃ task', (w.resume t task).tasks.get? t = some task' ∧
      (task'.progress = .joining loops ∨
        task'.progress = .finished .shutDown ∧ loops.all w.isOver = true) := by
  rw [resume, joining]
  dsimp only
  split
  · rename_i finished
    exact ⟨_, get?_endTask at_ _, Or.inr ⟨rfl, finished⟩⟩
  · exact ⟨task, at_, Or.inl joining⟩

/-- What has come back stays so, in a closed mesh. -/
theorem Joins.steps {wall : Wall} {progress : Progress} (joins : w.Joins mesh loops progress)
    (past : Steps (startingAt wall) atRest w hand) (closed : w.Closed mesh)
    (h : Steps w hand w' hand') : w'.Joins mesh loops progress := by
  cases joins with
  | waiting => exact .waiting
  | aborted => exact .aborted
  | back none_left => exact .back (none_left.steps past closed h)

/-- A turn of the task itself. -/
theorem joinsAt_stepTask {wall : Wall} (past : Steps (startingAt wall) atRest w hand)
    (closed : w.Closed mesh) (among : w.LoopsAmong mesh loops) (joins : w.JoinsAt t mesh loops) :
    (w.stepTask t).JoinsAt t mesh loops := by
  obtain ⟨task, at_, joins⟩ := joins
  have later : Steps w hand (w.stepTask t) hand := Steps.refl.course (course_stepTask w t)
  have still := joins.steps past closed later
  generalize hp : task.progress = progress at joins still
  cases joins with
  | waiting =>
    have live : task.isOver = false := by rw [Task.isOver, hp]
    cases kept : task.doomed with
    | true =>
      obtain ⟨task', at', aborted⟩ :=
        Option.map_eq_some_iff.mp (progress?_stepTask_doomed at_ live kept)
      exact ⟨task', at', aborted ▸ .aborted⟩
    | false =>
      have turn := stepTask_begun at_ kept live (by rw [Task.isBegun, hp])
      obtain ⟨task', at', came⟩ := resume_joining (w := w.dismiss (.task t)) at_ hp
      rw [← turn] at at'
      rcases came with goes_on | ⟨back, finished⟩
      · exact ⟨task', at', goes_on ▸ .waiting⟩
      · have none_left : w.LoopsAmong mesh [] := among.of_all_over finished
        exact ⟨task', at', back ▸ .back (none_left.steps past closed later)⟩
  | aborted | back =>
    refine ⟨task, ?_, hp ▸ still⟩
    rw [stepTask_over at_ (by rw [Task.isOver, hp])]
    exact at_

/-- **A task that waits for loops goes on to wait, is given up, or comes back when all are over.** -/
theorem JoinsAt.beats {wall : Wall} (past : Steps (startingAt wall) atRest w hand)
    (closed : w.Closed mesh) (among : w.LoopsAmong mesh loops) (joins : w.JoinsAt t mesh loops)
    (h : Beats w hand w' hand') : w'.JoinsAt t mesh loops := by
  induction h with
  | refl => exact joins
  | tail before b ih =>
    have past₁ := past.trans before.steps
    have closed₁ := closed.steps before.steps
    obtain ⟨task, at_, joins⟩ := ih
    rcases b.jot.task at_ with rfl | same | ⟨doomed, -⟩
    · exact joinsAt_stepTask past₁ closed₁ (among.steps past closed before.steps) ⟨task, at_, joins⟩
    · exact ⟨task, same, joins.steps past₁ closed₁ b.steps⟩
    · exact ⟨_, doomed, joins.steps past₁ closed₁ b.steps⟩

/-- The first turn of the task that is the first to shut a mesh down. -/
theorem joinsAt_stepTask_shutdown {wall : Wall} {m : Mesh}
    (past : Steps (startingAt wall) atRest w hand) (at_ : w.tasks.get? t = some task)
    (errand : task.errand = .shutdown mesh) (fresh : task.progress = .fresh)
    (kept : task.doomed = false) (hm : w.meshes.get? mesh = some m) (first : m.stopping = false) :
    (w.stepTask t).Closed mesh ∧ (w.stepTask t).LoopsAmong mesh m.loops ∧
      (w.stepTask t).JoinsAt t mesh m.loops := by
  have turn := stepTask_shutdown at_ errand fresh kept
  have taken : ((w.dismiss (.task t)).beginShutdown mesh).1 = m.loops := by
    show ((w.meshes.get? mesh).map (·.loops)).getD [] = m.loops
    rw [hm]
    rfl
  rw [taken] at turn
  have dismissed : Steps (startingAt wall) atRest (w.dismiss (.task t)) hand :=
    past.course (.aside (aside_dismiss_task w t))
  have deed : Deed 0 (w.dismiss (.task t)) ((w.dismiss (.task t)).beginShutdown mesh).2 :=
    .beginShutdown mesh
  have begins : Step (w.dismiss (.task t)) hand ((w.dismiss (.task t)).beginShutdown mesh).2 hand :=
    .deed deed
  have closed : ((w.dismiss (.task t)).beginShutdown mesh).2.Closed mesh :=
    closed_beginShutdown (w := w.dismiss (.task t)) hm
  have among : ((w.dismiss (.task t)).beginShutdown mesh).2.LoopsAmong mesh m.loops :=
    (loopsAmong_steps dismissed hm first).step (dismissed.each Cell.Coherent.invariant) begins closed
      (orderly_steps (dismissed.tail begins))
  have begun := dismissed.tail begins
  have known : ((w.dismiss (.task t)).beginShutdown mesh).2.tasks.get? t = some task :=
    ((clears_confined.beginShutdown (w.dismiss (.task t)) mesh).apart.tasks).symm ▸ at_
  generalize ((w.dismiss (.task t)).beginShutdown mesh).2 = shut at turn closed among begun known
  have goes_on : Steps shut hand (w.stepTask t) hand := by
    rw [turn]
    exact Steps.refl.course (polls_course.continueAs shut t (fun _ => trivial) _)
  refine ⟨closed.steps goes_on, among.steps begun closed goes_on, ?_⟩
  obtain ⟨task', at', came⟩ := resume_joining (get?_setProgress known (.joining m.loops)) rfl
  rw [← continueAs, ← turn] at at'
  rcases came with waits | ⟨back, finished⟩
  · exact ⟨task', at', waits ▸ .waiting⟩
  · have none_left : shut.LoopsAmong mesh [] := among.of_all_over finished
    exact ⟨task', at', back ▸ .back (none_left.steps begun closed goes_on)⟩

end Task

/-- Between calls, a loop that is over has run to its end. -/
theorem joined_of_isOver (books : Each Cell.Balanced w atRest) (calls : Each Protocol.Kept w atRest)
    (coherent : Each Cell.Coherent w atRest) (hc : w.cells.get? key = some c)
    (finished : c.isOver = true) : c.Joined := by
  refine ⟨finished, (books.cells key c hc).handled_eq finished, fun whole => ?_⟩
  have ended : c.phase = .ended := by
    rcases Cell.isOver_iff.mp finished with ended | crashed
    · exact ended
    · obtain ⟨fault, p, made⟩ := (coherent.cells key c hc).crashed.mp crashed
      exact absurd made (whole fault p)
  obtain ⟨made, once⟩ := terminated_of_protocol (calls.cells key c hc)
  obtain ⟨outcome, last⟩ := made ended rfl
  obtain ⟨-, before, rounds, only⟩ := once outcome last
  exact ⟨before, outcome, rounds, only⟩

/-- **A shutdown waits for every loop**, if it was the first to begin. From its return on, whatever came
before it and in between (runs of programs among it: `beats_run`), each incarnation of the mesh that was
ever let in, still registered when the shutdown began or not, has run to its end: its loop is over, it
handled all that it accepted unless a recovery failed or panicked, and made its last call unless a
recovery panicked. -/
theorem stop_joins_every_loop {wall : Wall} {w₁ : World β} {hand₁ : CellKey → Hand} {t : TaskId}
    {task : Task} {m : Mesh} (h₁ : Steps (startingAt wall) atRest w₁ hand₁)
    (at_ : w₁.tasks.get? t = some task) (errand : task.errand = .shutdown mesh)
    (fresh : task.progress = .fresh) (kept : task.doomed = false)
    (hm : w₁.meshes.get? mesh = some m) (first : m.stopping = false)
    (h : Beats (w₁.stepTask t) hand₁ w atRest) (returned : w.report? t = some .shutDown) :
    ∀ key c, w.cells.get? key = some c → c.mesh = mesh → c.phase ≠ .starting → c.phase ≠ .refused →
      c.Joined := by
  obtain ⟨closing, among, joins⟩ := joinsAt_stepTask_shutdown h₁ at_ errand fresh kept hm first
  have begun : Steps (startingAt wall) atRest (w₁.stepTask t) hand₁ :=
    h₁.course (course_stepTask w₁ t)
  have past := begun.trans h.steps
  obtain ⟨task', at', joins⟩ := joins.beats begun closing among h
  obtain ⟨ended, at_end, reported⟩ := report?_eq_some returned
  cases at_end.symm.trans at'
  rw [reported] at joins
  cases joins with
  | back none_left =>
    intro key c hc of_mesh not_starting not_refused
    refine joined_of_isOver (past.each Cell.Balanced.invariant) (past.each Protocol.invariant)
      (past.each Cell.Coherent.invariant) hc ?_
    cases hp : c.phase with
    | starting => exact absurd hp not_starting
    | refused => exact absurd hp not_refused
    | running => exact absurd (none_left key c hc of_mesh (Or.inl hp)) List.not_mem_nil
    | draining => exact absurd (none_left key c hc of_mesh (Or.inr hp)) List.not_mem_nil
    | ended | crashed => rw [Cell.isOver, hp]; rfl

/-- Two cells with an event each, of which one is no longer registered, and a shutdown that is yet to
begin. -/
def partedMesh : World (Resident Actor) :=
  (startingAt ⟨0, 0⟩).run [
    .openMesh "mesh" (.ofMillis 1000),
    .start ⟨0⟩ ⟨"a"⟩ (.custom { rules := [] }),
    .start ⟨0⟩ ⟨"b"⟩ (.custom { rules := [] }),
    .emitNew ⟨0⟩ ⟨"a"⟩ "x" .empty,
    .emitNew ⟨0⟩ ⟨"b"⟩ "y" .empty,
    .stopCell ⟨0⟩ ⟨"a"⟩,
    .spawn (.shutdown ⟨0⟩)]

/-- The shutdown begins, the cells drain, and it comes back. -/
def joinedMesh : World (Resident Actor) :=
  (partedMesh.stepTask ⟨0⟩).run [
    .turn (.cell ⟨0⟩), .turn (.cell ⟨1⟩), .turn (.cell ⟨1⟩), .turn (.cell ⟨0⟩), .turn (.task ⟨0⟩)]

/-- Both have handled their event and are over. -/
theorem stop_joins_every_loop_joinedMesh : joinedMesh.report? ⟨0⟩ = some .shutDown ∧
    ∃ a b, joinedMesh.cells.get? ⟨0⟩ = some a ∧ joinedMesh.cells.get? ⟨1⟩ = some b ∧
      a.accepted.length = 1 ∧ b.accepted.length = 1 ∧ a.Joined ∧ b.Joined := by
  have returned : joinedMesh.report? ⟨0⟩ = some .shutDown := rfl
  have drained : Beats (partedMesh.stepTask ⟨0⟩) atRest joinedMesh atRest :=
    beats_run ⟨trivial, trivial, trivial, trivial, trivial, trivial⟩
  have before : Steps (startingAt ⟨0, 0⟩) atRest partedMesh atRest := steps_run _ _
  have joined := stop_joins_every_loop before (t := ⟨0⟩) rfl rfl rfl rfl rfl rfl drained returned
  have known : ∃ a b, joinedMesh.cells.get? ⟨0⟩ = some a ∧ joinedMesh.cells.get? ⟨1⟩ = some b ∧
      a.mesh = ⟨0⟩ ∧ b.mesh = ⟨0⟩ ∧ a.phase = .ended ∧ b.phase = .ended ∧
      a.accepted.length = 1 ∧ b.accepted.length = 1 :=
    ⟨_, _, rfl, rfl, rfl, rfl, rfl, rfl, rfl, rfl⟩
  obtain ⟨a, b, ha, hb, mesh_a, mesh_b, ended_a, ended_b, one_a, one_b⟩ := known
  exact ⟨returned, a, b, ha, hb, one_a, one_b,
    joined ⟨0⟩ a ha mesh_a (by rw [ended_a]; nofun) (by rw [ended_a]; nofun),
    joined ⟨1⟩ b hb mesh_b (by rw [ended_b]; nofun) (by rw [ended_b]; nofun)⟩

/-- A cell with two events in its queue fails to recover from the first one, and the shutdown comes
back. -/
def forsakenMesh : World (Resident Actor) :=
  (startingAt ⟨0, 0⟩).run [
    .openMesh "mesh" (.ofMillis 1000),
    .start ⟨0⟩ ⟨"a"⟩ (.custom {
      rules := [⟨some "boom", [.panic ⟨some "first"⟩]⟩], onRecover := .fail (.executionFailed "lost") }),
    .emitNew ⟨0⟩ ⟨"a"⟩ "boom" .empty,
    .emitNew ⟨0⟩ ⟨"a"⟩ "x" .empty,
    .spawn (.shutdown ⟨0⟩),
    .turn (.task ⟨0⟩), .turn (.cell ⟨0⟩), .turn (.task ⟨0⟩)]

/-- Two shutdowns begin one after the other, ahead of the turn of a cell that has an event in its queue.
-/
def overtakenMesh : World (Resident Actor) :=
  (startingAt ⟨0, 0⟩).run [
    .openMesh "mesh" (.ofMillis 1000),
    .start ⟨0⟩ ⟨"a"⟩ (.custom { rules := [] }),
    .emitNew ⟨0⟩ ⟨"a"⟩ "x" .empty,
    .spawn (.shutdown ⟨0⟩),
    .spawn (.shutdown ⟨0⟩),
    .turn (.task ⟨0⟩), .turn (.task ⟨1⟩)]

/-- **Not every shutdown that comes back leaves all events handled**: not those behind one whose recovery
failed, and none at all if it was not the first to begin. -/
theorem stop_leaves_events :
    (∃ c, forsakenMesh.report? ⟨0⟩ = some .shutDown ∧ forsakenMesh.cells.get? ⟨0⟩ = some c ∧
      c.mesh = ⟨0⟩ ∧ c.isOver = true ∧ c.accepted.length = 2 ∧ c.handled.length = 1) ∧
    ∃ c, overtakenMesh.report? ⟨1⟩ = some .shutDown ∧ overtakenMesh.cells.get? ⟨0⟩ = some c ∧
      c.mesh = ⟨0⟩ ∧ c.isOver = false ∧ c.accepted.length = 1 ∧ c.handled = [] :=
  ⟨⟨_, rfl, rfl, rfl, rfl, rfl, rfl⟩, ⟨_, rfl, rfl, rfl, rfl, rfl, rfl⟩⟩

end World

end EventMesh
