import EventMesh.Cli.Session
import EventMesh.Proofs.Wait.Stir

/-!
# Sessions step by step

What all sessions have in common: the steps of a session that succeed (`ok_bind`, `exists_of_bind`), the
bounds of its waits (`err?_withTimeout`), and the moments that it goes through: one world leads to
another if stirs do. Main statement: the world in which a pair session begins leads to the one in which
it answers (`leads_pair`).
-/

namespace EventMesh

open Time

theorem Time.Duration.saturatingAdd_pos {a b : Duration} (pos : 0 < a.nanos + b.nanos) :
    0 < (a.saturatingAdd b).nanos := by
  unfold Duration.saturatingAdd Duration.saturating
  split
  · exact pos
  · exact Nat.sub_pos_of_lt (by decide)

/-- A timeout that takes any time at all is not over when it begins. -/
theorem Context.err?_withTimeout {timeout : Duration} (pos : 0 < timeout.nanos) (now : Instant)
    (scopes : Scopes) : (Context.background.withTimeout now timeout).err? scopes now = none := by
  unfold Context.withTimeout Instant.add?
  by_cases representable : now.nanos + timeout.nanos < Instant.bound
  · have later : ¬ (⟨now.nanos + timeout.nanos⟩ : Instant) ≤ now :=
      Nat.not_le.mpr (Nat.lt_add_of_pos_right pos)
    rw [if_pos representable]
    show (if decide ((⟨now.nanos + timeout.nanos⟩ : Instant) ≤ now) = true then _ else none) = none
    rw [decide_eq_false later, if_neg Bool.false_ne_true]
  · rw [if_neg representable]
    rfl

namespace World

/-- One world comes after another. -/
def Leads {β : Type} (w w' : World β) : Prop := ∃ log, Stirs w log w'

section

variable {β : Type} {w w₁ w₂ : World β}

theorem Leads.refl (w : World β) : Leads w w := ⟨[], .refl⟩

theorem Leads.trans (h : Leads w w₁) (h' : Leads w₁ w₂) : Leads w w₂ := by
  obtain ⟨log, stirs⟩ := h
  obtain ⟨log', stirs'⟩ := h'
  exact ⟨log ++ log', stirs.trans stirs'⟩

theorem Busy.leads (h : Busy w w₁) : Leads w w₁ := by
  obtain ⟨log, stirs, -⟩ := h
  exact ⟨log, stirs⟩

variable [Behavior β]

theorem leads_run (w : World β) (moves : List (Move β)) : Leads w (w.run moves) := stirs_run w moves

theorem leads_settle (w : World β) : Leads w w.settle := by
  obtain ⟨moves, h⟩ := exists_settle w
  exact h ▸ leads_run w moves

theorem leads_advance (w : World β) (ms : Nat) : Leads w (w.advance ms) := by
  obtain ⟨moves, h⟩ := exists_elapse ms ms w.settle
  have elapsed := leads_run w.settle moves
  rw [h] at elapsed
  exact (leads_settle w).trans elapsed

theorem leads_await (w : World β) (ts : List TaskId) (stops : Nat) :
    Leads w (await ts stops w) := by
  induction stops generalizing w with
  | zero => exact leads_settle w
  | succ stops ih =>
    refine (leads_settle w).trans ?_
    unfold await
    dsimp only
    split
    · exact .refl _
    · split
      · exact .refl _
      · rename_i ticks _
        exact (leads_run w.settle [.pass (ticks * nanosPerMilli), .wake]).trans (ih _)

end

end World

namespace Cli

open World

theorem ok_bind {ε α β : Type} (a : α) (f : α → Except ε β) : (Except.ok a >>= f) = f a := rfl

theorem exists_of_bind {ε α β : Type} {x : Except ε α} {f : α → Except ε β} {b : β}
    (h : (x >>= f) = .ok b) : ∃ a, x = .ok a ∧ f a = .ok b := by
  cases x with
  | error e => cases h
  | ok a => exact ⟨a, rfl, h⟩

section

variable {w w' : Stock}

theorem leads_startCell {mesh : MeshId} {id : CellId} {resident : Resident Empty}
    (h : startCell w mesh id resident = .ok w') : Leads w w' := by
  have started := leads_run w [.start mesh id resident]
  unfold startCell at h
  split at h
  · cases h
  · rename_i w₁ same
    cases h
    rwa [run_cons, run_nil, act, same] at started

theorem leads_send {mesh : MeshId} {target : CellId} {topic : String} {v : Value}
    {scene : Option SceneId} (h : send w mesh target topic v scene = .ok w') : Leads w w' := by
  unfold send at h
  dsimp only at h
  split at h
  · cases h
  · rename_i w₁ same
    cases h
    have delivered := leads_run (w.make (Event.make topic (.single v) scene w.clock.wall)).2
      [.emit mesh target (w.make (Event.make topic (.single v) scene w.clock.wall)).1]
    rw [run_cons, run_nil, act, same] at delivered
    have made : Apart w (w.make (Event.make topic (.single v) scene w.clock.wall)).2 :=
      .of_eq rfl rfl
    exact (Busy.apart made).leads.trans delivered

/-- The end of a pair session comes after its beginning. -/
theorem leads_pair {config : Config} {window : Duration} {gap : Nat} {answer : Json}
    (h : pair w config window gap = .ok (answer, w')) : Leads w w' := by
  unfold pair at h
  dsimp only at h
  obtain ⟨w₁, started, h⟩ := exists_of_bind h
  obtain ⟨w₂, startedToo, h⟩ := exists_of_bind h
  obtain ⟨w₃, sent, h⟩ := exists_of_bind h
  obtain ⟨w₄, sentToo, h⟩ := exists_of_bind h
  have opened := leads_run w [.openMesh config.id config.requestTimeout]
  have arranged := leads_run w₂
    [.subscribe (w.openMesh config.id config.requestTimeout).1 ⟨"pair"⟩ [⟨"observer"⟩], .newScene]
  have ready := (opened.trans (leads_startCell started)).trans
    ((leads_startCell startedToo).trans arranged)
  have ticked := (ready.trans (leads_send sent)).trans
    ((leads_advance w₃ gap).trans (leads_send sentToo))
  refine ticked.trans ?_
  split at h
  · cases h
    exact ((busy_spawn ..).trans (busy_spawn ..)).leads.trans (leads_await ..)
  · cases h
    exact ((busy_spawn ..).trans (busy_spawn ..)).leads.trans (leads_await ..)
  · cases h
  · cases h

end

end Cli

end EventMesh
