import EventMesh.Proofs.Wait.Flag
import EventMesh.Proofs.Wait.Rendezvous

/-!
# A scene is written once, and no wait for a key is lost

What is written on a scene is what the stores that succeeded wrote, each under a key of its own
(`Stirs.written`, `Stirs.written_kept`). As the flags are kept, the polls of a wait for a key look at
just that (`Kept.firstPoll`, `Kept.laterPoll`). `scene_is_written_once` puts them together.
-/

namespace EventMesh

theorem Dict.length_insert {κ α : Type} [DecidableEq κ] [LT κ] [DecidableLT κ] {d : Dict κ α}
    {k : κ} (absent : Dict.get? d k = none) (a : α) :
    (Dict.insert d k a).length = d.length + 1 := by
  induction d with
  | nil => rfl
  | cons p d ih => grind [Dict.insert, Dict.get?]

namespace World

open Time

variable {β : Type}

/-! ### What is written -/

/-- The stores on a scene that succeeded, oldest first. -/
def stores (scene : SceneId) (log : List Mark) : List (String × Payload) :=
  log.filterMap fun
    | .stored s key p (.ok ()) => if s = scene then some (key, p) else none
    | _ => none

/-- What a change does to what is written on a scene: nothing, or it writes under a free key. -/
theorem Change.written {w : World β} {marks : List Mark} {side : Waits} (h : Change w marks side)
    (scene : SceneId) {written : Dict String Payload}
    (after : written = ((side.scenes.get? scene).map (·.stored)).getD []) :
    stores scene marks = [] ∧ written = w.writtenOn scene ∨
      ∃ key p, stores scene marks = [(key, p)] ∧ Dict.get? (w.writtenOn scene) key = none ∧
        written = Dict.insert (w.writtenOn scene) key p := by
  cases h with
  | addScene =>
    refine Or.inl ⟨rfl, after.trans ?_⟩
    rw [writtenOn, Table.get?_add]
    split
    · rename_i hs
      rw [hs, Table.get?_next]
      rfl
    · rfl
  | @write s board found key free p =>
    rw [Table.get?_modify] at after
    by_cases hs : s = scene
    · rw [if_pos hs, ← hs, found] at after
      rw [writtenOn_eq (hs ▸ found)]
      exact Or.inr ⟨key, p, by simp [stores, hs], free, after⟩
    · rw [if_neg hs] at after
      exact Or.inl ⟨by simp [stores, hs], after⟩
  | nothing | woke | addWaiter | answer | refuse | derive | cancel | drop | pass | spawn | doom =>
    exact Or.inl ⟨rfl, after⟩

/-- So does a stir. -/
theorem Stir.written {w w' : World β} {marks : List Mark} (h : Stir w marks w') (scene : SceneId) :
    stores scene marks = [] ∧ w'.writtenOn scene = w.writtenOn scene ∨
      ∃ key p, stores scene marks = [(key, p)] ∧ Dict.get? (w.writtenOn scene) key = none ∧
        w'.writtenOn scene = Dict.insert (w.writtenOn scene) key p := by
  rcases h.cases with ⟨t, rfl, rfl⟩ | change
  · refine Or.inl ⟨rfl, ?_⟩
    rw [writtenOn, (spares_stepTask w t).stored, writtenOn]
  · exact change.written scene rfl

/-- What is written on a scene is what the stores that succeeded wrote, each under a key of its own. -/
structure Written (w : World β) (scene : SceneId) (log : List Mark) : Prop where
  get? : ∀ key, Dict.get? (w.writtenOn scene) key = Dict.get? (stores scene log) key
  nodup : (Dict.keys (stores scene log)).Nodup
  length : (w.writtenOn scene).length = (stores scene log).length

theorem Stirs.written {wall : Wall} {log : List Mark} {w : World β}
    (h : Stirs (startingAt wall) log w) (scene : SceneId) : w.Written scene log := by
  induction h with
  | refl => exact ⟨fun _ => rfl, List.nodup_nil, rfl⟩
  | @tail log marks w w' h s ih =>
    have split : stores scene (log ++ marks) = stores scene log ++ stores scene marks :=
      List.filterMap_append
    rcases s.written scene with ⟨nothing, same⟩ | ⟨key, p, one, free, after⟩
    · rw [nothing, List.append_nil] at split
      exact ⟨fun key => by rw [same, split, ih.get?], split ▸ ih.nodup,
        by rw [same, split, ih.length]⟩
    · rw [one] at split
      have fresh : Dict.get? (stores scene log) key = none := ih.get? key ▸ free
      refine ⟨fun j => ?_, ?_, ?_⟩
      · rw [after, split, Dict.get?_insert, Dict.get?_append, ih.get?]
        by_cases hj : key = j
        · rw [if_pos hj, ← hj, fresh]
          simp [Dict.get?]
        · rw [if_neg hj]
          simp [Dict.get?, hj]
      · rw [split, Dict.keys, List.map_append]
        refine List.nodup_append.mpr ⟨ih.nodup, by simp, fun a ha b hb => ?_⟩
        rw [List.mem_singleton.mp hb]
        rintro rfl
        obtain ⟨⟨k, q⟩, hm, rfl⟩ := List.mem_map.mp ha
        rw [Dict.get?_of_mem ih.nodup hm] at fresh
        cases fresh
      · rw [after, split, Dict.length_insert free, ih.length, List.length_append]
        rfl

/-- What is written stays. -/
theorem Stirs.written_kept {w w' : World β} {log : List Mark} (h : Stirs w log w')
    {scene : SceneId} {key : String} {p : Payload}
    (hp : Dict.get? (w.writtenOn scene) key = some p) :
    Dict.get? (w'.writtenOn scene) key = some p := by
  induction h with
  | refl => exact hp
  | tail _ s ih =>
    rcases s.written scene with ⟨-, same⟩ | ⟨j, q, -, free, after⟩
    · rw [same, ih]
    · rw [after, Dict.get?_insert, if_neg, ih]
      rintro rfl
      rw [ih] at free
      cases free

/-! ### Scenes -/

theorem store_ok_iff {w : World β} {scene : SceneId} {board : Scene}
    (found : w.scenes.get? scene = some board) (key : String) (p : Payload) :
    (w.store scene key p).1 = .ok () ↔ board.fetch? key = none := by
  rcases store_cases found key p with ⟨q, taken, stored⟩ | ⟨free, stored⟩
  · rw [stored, taken]
    simp
  · rw [stored, free]
    simp

theorem store_refused {w : World β} {scene : SceneId} {board : Scene}
    (found : w.scenes.get? scene = some board) {key : String} (taken : board.fetch? key ≠ none)
    (p : Payload) : w.store scene key p = (.error (.sceneKeyExists key), w) := by
  rcases store_cases found key p with ⟨q, -, stored⟩ | ⟨free, -⟩
  · exact stored
  · exact absurd free taken

/-- What is written is on a scene. -/
theorem exists_of_fetchAt {w : World β} {scene : SceneId} {key : String} {p : Payload}
    (h : w.fetchAt scene key = some p) :
    ∃ board, w.scenes.get? scene = some board ∧ board.fetch? key = some p := by
  rw [fetchAt, writtenOn] at h
  cases found : w.scenes.get? scene with
  | none =>
    rw [found] at h
    cases h
  | some board =>
    rw [found] at h
    exact ⟨board, rfl, h⟩

section

variable {w : World β} {t : TaskId} {task : Task} {scene : SceneId} {key : String} {ctx : Context}
  {board : Scene}

/-- The first poll of a wait for a key. -/
theorem Kept.firstPoll (h : Kept w) (at_ : w.tasks.get? t = some task)
    (errand : task.errand = .waitFlag scene key ctx) (found : w.scenes.get? scene = some board)
    (kept : task.doomed = false) (fresh : task.progress = .fresh) :
    (w.stepTask t).progress? t = some (match w.err? ctx, board.fetch? key with
      | some e, _ => .finished (.reply (.error e))
      | none, some p => .finished (.reply (.ok p))
      | none, none => .waiting (.flag (board.flag key w.flags.next).slot) ctx) := by
  have reply := (h.nextFlag found key).reply?
  rw [progress?_stepTask_waitFlag at_ kept fresh errand found, waitResult?_eq, slotReply?, reply,
    fetchAt_eq found, errand]
  cases w.err? ctx <;> cases board.fetch? key <;> rfl

/-- Each later poll. -/
theorem Kept.laterPoll (h : Kept w) (at_ : w.tasks.get? t = some task)
    (errand : task.errand = .waitFlag scene key ctx) (found : w.scenes.get? scene = some board)
    (kept : task.doomed = false) (begun : task.isBegun = true) (live : task.isOver = false) :
    (w.stepTask t).progress? t = some (match board.fetch? key, w.err? ctx with
      | some p, _ => .finished (.reply (.ok p))
      | none, some e => .finished (.reply (.error e))
      | none, none => task.progress) := by
  obtain ⟨flag, hf, waiting⟩ := h.waiting at_ errand begun live
  rw [progress?_stepTask_waiting at_ kept waiting, waitResult?_eq, slotReply?, h.reply? hf,
    fetchAt_eq found, errand, waiting]
  cases board.fetch? key <;> cases w.err? ctx <;> rfl

end

/-- **A scene is written once and loses no wait**, in every order of stores, of waits on any keys, and
of the ends of these waits. A store succeeds just under a key that none succeeded under before, and
otherwise changes nothing; what it wrote is found from then on. A wait whose first poll finds its
context ended reports that; any other poll reports what is written under the key, else the end of the
context, else goes on, whatever became of other waits; once a world that is up to date is settled, no
wait goes on that could end. -/
theorem scene_is_written_once {wall : Wall} {log : List Mark} {w : World β}
    (h : Stirs (startingAt wall) log w) {scene : SceneId} {board : Scene}
    (found : w.scenes.get? scene = some board) :
    (∀ key p, (w.store scene key p).1 = .ok () ↔ key ∉ Dict.keys (stores scene log)) ∧
    (∀ key p, key ∈ Dict.keys (stores scene log) →
      w.store scene key p = (.error (.sceneKeyExists key), w)) ∧
    (∀ key, board.fetch? key = Dict.get? (stores scene log) key) ∧
    (∀ key p log' w', board.fetch? key = some p → Stirs w log' w' →
      ∃ board', w'.scenes.get? scene = some board' ∧ board'.fetch? key = some p) ∧
    (Dict.keys (stores scene log)).Nodup ∧
    board.size = (Dict.keys (stores scene log)).length ∧
    ∀ t task key ctx, w.tasks.get? t = some task → task.errand = .waitFlag scene key ctx →
      (task.doomed = false → task.progress = .fresh →
        (w.stepTask t).progress? t = some (match w.err? ctx, board.fetch? key with
          | some e, _ => .finished (.reply (.error e))
          | none, some p => .finished (.reply (.ok p))
          | none, none => .waiting (.flag (board.flag key w.flags.next).slot) ctx)) ∧
      (task.doomed = false → task.isBegun = true → task.isOver = false →
        (w.stepTask t).progress? t = some (match board.fetch? key, w.err? ctx with
          | some p, _ => .finished (.reply (.ok p))
          | none, some e => .finished (.reply (.error e))
          | none, none => task.progress)) ∧
      (∀ p, task.progress = .finished (.reply (.ok p)) → board.fetch? key = some p) ∧
      (lags log = false → w.isSettled = true → task.isOver = false →
        task.isBegun = true ∧ board.fetch? key = none ∧ w.err? ctx = none) := by
  have written := h.written scene
  have kept := h.kept
  have fetch_eq (key : String) : board.fetch? key = Dict.get? (stores scene log) key := by
    rw [← written.get? key, writtenOn_eq found, Scene.fetch?]
  have free_iff (key : String) : board.fetch? key = none ↔ key ∉ Dict.keys (stores scene log) := by
    rw [fetch_eq, Dict.get?_eq_none_iff]
  refine ⟨fun key p => (store_ok_iff found key p).trans (free_iff key), fun key p taken =>
    store_refused found (fun free => (free_iff key).mp free taken) p, fetch_eq,
    fun key p log' w' fetched later => ?_, written.nodup, ?_, fun t task key ctx at_ errand =>
      ⟨kept.firstPoll at_ errand found, kept.laterPoll at_ errand found, fun p replied => ?_,
        fun upToDate settled live => ?_⟩⟩
  · exact exists_of_fetchAt (later.written_kept ((fetchAt_eq found key).trans fetched))
  · rw [Dict.keys, List.length_map, ← written.length, writtenOn_eq found, Scene.size]
  · have faithful := kept.waits at_ errand
    rw [replied] at faithful
    cases faithful with
    | replied fetched => exact (fetchAt_eq found key).symm.trans fetched
  · obtain ⟨begun, idle⟩ := h.settled upToDate settled at_
    have begun : task.isBegun = true := by
      rw [Task.isBegun]
      split
      · exact absurd ‹_› begun
      all_goals rfl
    obtain ⟨flag, hf, waiting⟩ := kept.waiting at_ errand begun live
    obtain ⟨empty, running⟩ := idle _ _ waiting
    exact ⟨begun, (fetchAt_eq found key).symm.trans ((kept.reply? hf).symm.trans empty), running⟩

/-- A scene on which a key was written while one waited for it and another had given up. -/
def noticeBoard : World Unit :=
  let w : World Unit := (startingAt ⟨0, 0⟩).addScene.2
  let w := (w.spawn (.waitFlag ⟨0⟩ "k" .background)).2
  let w := (w.spawn (.waitFlag ⟨0⟩ "k" .background)).2
  let w := ((w.stepTask ⟨0⟩).stepTask ⟨1⟩).abort ⟨1⟩
  ((w.stepTask ⟨1⟩).store ⟨0⟩ "k" (.mk 0 [])).2

theorem scene_is_written_once_noticeBoard :
    ∃ board, noticeBoard.scenes.get? ⟨0⟩ = some board ∧ board.size = 1 ∧
      board.fetch? "k" = some (.mk 0 []) ∧
      (noticeBoard.stepTask ⟨0⟩).progress? ⟨0⟩ = some (.finished (.reply (.ok (.mk 0 [])))) := by
  have stirs : Stirs (startingAt ⟨0, 0⟩) [.stored ⟨0⟩ "k" (.mk 0 []) (.ok ())] noticeBoard :=
    (((((((Stirs.refl.tail .addScene).tail (.spawn (.waitFlag ⟨0⟩ "k" .background))).tail
      (.spawn (.waitFlag ⟨0⟩ "k" .background))).tail (.poll ⟨0⟩)).tail (.poll ⟨1⟩)).tail
        (.abort ⟨1⟩)).tail (.poll ⟨1⟩)).tail (.store rfl "k" (.mk 0 []))
  obtain ⟨board, found⟩ : ∃ board, noticeBoard.scenes.get? ⟨0⟩ = some board := ⟨_, rfl⟩
  obtain ⟨-, -, fetches, -, -, size, waits⟩ := scene_is_written_once stirs found
  have fetched : board.fetch? "k" = some (.mk 0 []) := (fetches "k").trans rfl
  have polled := (waits ⟨0⟩ _ "k" .background rfl rfl).2.1 rfl rfl rfl
  rw [fetched] at polled
  exact ⟨board, found, size, fetched, polled⟩

end World

end EventMesh
