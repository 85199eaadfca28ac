import EventMesh.Proofs.Wait.Poll

/-!
# No flag is lost while someone waits for it

The flag of a key is there as long as someone waits for the key, and counts them; it has a slot of its
own, filled just when the key is written (`Kept`). The proofs go by what can happen to the flag of one
key: one more hangs on it (`Kept.waitFlag`), one less (`Kept.stop`), or it is raised (`Kept.store`).
Main statement: every stir keeps the flags (`Stir.kept`).
-/

namespace EventMesh.World

open Time

variable {β : Type}

/-! ### Flags -/

/-- What is written on a scene. -/
def writtenOn (w : World β) (scene : SceneId) : Dict String Payload :=
  ((w.scenes.get? scene).map (·.stored)).getD []

/-- The flag of a key on a scene, if there is one. -/
def flagAt (w : World β) (scene : SceneId) (key : String) : Option Flag :=
  (w.scenes.get? scene).bind fun board => Dict.get? board.flags key

/-- The payload under a key of a scene. -/
def fetchAt (w : World β) (scene : SceneId) (key : String) : Option Payload :=
  Dict.get? (w.writtenOn scene) key

/-- Whether a task waits for a key: it took its first step and is not over. -/
def hangsOn (scene : SceneId) (key : String) (task : Task) : Bool :=
  match task.errand with
  | .waitFlag s k _ => s == scene && k == key && task.isBegun && !task.isOver
  | _ => false

/-- How many tasks wait for a key. -/
def hanging (w : World β) (scene : SceneId) (key : String) : Nat :=
  w.tasks.countWhere (hangsOn scene key)

/-- How far a wait for a key within a context may have come: it waits for the flag of the key, and
brings back no payload but the one written under the key. -/
inductive Faithful (w : World β) (scene : SceneId) (key : String) (ctx : Context) : Progress → Prop
  | fresh : Faithful w scene key ctx .fresh
  | waiting {flag : Flag} (h : w.flagAt scene key = some flag) :
      Faithful w scene key ctx (.waiting (.flag flag.slot) ctx)
  | replied {p : Payload} (h : w.fetchAt scene key = some p) :
      Faithful w scene key ctx (.finished (.reply (.ok p)))
  | expired (e : EventError) : Faithful w scene key ctx (.finished (.reply (.error e)))
  | aborted : Faithful w scene key ctx .aborted

/-- The flags are kept as they should be. -/
structure Kept (w : World β) : Prop where
  /-- A flag counts those who wait for its key, and without a flag nobody does. -/
  count : ∀ scene key, w.hanging scene key = ((w.flagAt scene key).map (·.waiting)).getD 0
  /-- Its slot exists. -/
  known : ∀ {scene key flag}, w.flagAt scene key = some flag → (w.flags.get? flag.slot).isSome
  /-- The slot holds what is written under the key. -/
  reply? : ∀ {scene key flag}, w.flagAt scene key = some flag →
    w.flags.reply? flag.slot = w.fetchAt scene key
  /-- No other flag has the slot. -/
  alone : ∀ {scene key flag scene' key' flag'}, w.flagAt scene key = some flag →
    w.flagAt scene' key' = some flag' → flag.slot = flag'.slot → scene = scene' ∧ key = key'
  /-- A written key has a flag. -/
  raised : ∀ {scene key p}, w.fetchAt scene key = some p → (w.flagAt scene key).isSome
  waits : ∀ {t task scene key ctx}, w.tasks.get? t = some task →
    task.errand = .waitFlag scene key ctx → w.Faithful scene key ctx task.progress

theorem hangsOn_iff {scene : SceneId} {key : String} {task : Task} :
    hangsOn scene key task = true ↔
      (∃ ctx, task.errand = .waitFlag scene key ctx) ∧ task.isBegun = true ∧ task.isOver = false := by
  unfold hangsOn
  split
  · rename_i errand
    simp [errand, and_assoc]
  · rename_i other
    simp only [Bool.false_eq_true, false_iff]
    rintro ⟨⟨ctx, errand⟩, -⟩
    exact other _ _ _ errand

theorem writtenOn_eq {w : World β} {scene : SceneId} {board : Scene}
    (found : w.scenes.get? scene = some board) : w.writtenOn scene = board.stored := by
  rw [writtenOn, found]
  rfl

/-- Scenes that look alike have the same flags and the same writing. -/
theorem flagAt_congr {w w' : World β} (h : w'.scenes = w.scenes) (scene : SceneId) (key : String) :
    w'.flagAt scene key = w.flagAt scene key := by
  rw [flagAt, h, flagAt]

theorem fetchAt_congr {w w' : World β} (h : w'.scenes = w.scenes) (scene : SceneId) (key : String) :
    w'.fetchAt scene key = w.fetchAt scene key := by
  rw [fetchAt, writtenOn, h, fetchAt, writtenOn]

/-- A wait stays faithful where flags keep their slots and keys what is written under them. -/
theorem Faithful.of_kept {w w' : World β} {scene : SceneId} {key : String} {ctx : Context}
    {progress : Progress} (h : w.Faithful scene key ctx progress)
    (flags : ∀ flag, w.flagAt scene key = some flag → progress = .waiting (.flag flag.slot) ctx →
      ∃ flag', w'.flagAt scene key = some flag' ∧ flag'.slot = flag.slot)
    (fetched : ∀ p, w.fetchAt scene key = some p → w'.fetchAt scene key = some p) :
    w'.Faithful scene key ctx progress := by
  cases h with
  | fresh => exact .fresh
  | waiting h =>
    obtain ⟨flag', found, same⟩ := flags _ h rfl
    rw [← same]
    exact .waiting found
  | replied h => exact .replied (fetched _ h)
  | expired e => exact .expired e
  | aborted => exact .aborted

theorem flagAt_modify {w w' : World β} {scene : SceneId} {board : Scene} {f : Scene → Scene}
    (found : w.scenes.get? scene = some board) (scenes : w'.scenes = w.scenes.modify scene f)
    (s : SceneId) (k : String) :
    w'.flagAt s k = if s = scene then Dict.get? (f board).flags k else w.flagAt s k := by
  rw [flagAt, scenes, Table.get?_modify, flagAt]
  by_cases hs : s = scene
  · rw [if_pos hs, if_pos hs.symm, hs, found]
    rfl
  · rw [if_neg hs, if_neg (Ne.symm hs)]

theorem fetchAt_modify {w w' : World β} {scene : SceneId} {board : Scene} {f : Scene → Scene}
    (found : w.scenes.get? scene = some board) (scenes : w'.scenes = w.scenes.modify scene f)
    (s : SceneId) (k : String) :
    w'.fetchAt s k = if s = scene then (f board).fetch? k else w.fetchAt s k := by
  rw [fetchAt, writtenOn, scenes, Table.get?_modify, fetchAt, writtenOn]
  by_cases hs : s = scene
  · rw [if_pos hs, if_pos hs.symm, hs, found]
    rfl
  · rw [if_neg hs, if_neg (Ne.symm hs)]

theorem flagAt_eq {w : World β} {scene : SceneId} {board : Scene}
    (found : w.scenes.get? scene = some board) (key : String) :
    w.flagAt scene key = Dict.get? board.flags key := by
  rw [flagAt, found]
  rfl

theorem fetchAt_eq {w : World β} {scene : SceneId} {board : Scene}
    (found : w.scenes.get? scene = some board) (key : String) :
    w.fetchAt scene key = board.fetch? key := by
  rw [fetchAt, writtenOn_eq found, Scene.fetch?]

/-- The flags after a change of a scene that concerns the flag of one key. -/
theorem flagAt_modify_key {w w' : World β} {scene : SceneId} {board : Scene} {f : Scene → Scene}
    (found : w.scenes.get? scene = some board) (scenes : w'.scenes = w.scenes.modify scene f)
    {key : String} {flag? : Option Flag}
    (changed : ∀ k, Dict.get? (f board).flags k =
      if key = k then flag? else Dict.get? board.flags k) (s : SceneId) (k : String) :
    w'.flagAt s k = if s = scene ∧ k = key then flag? else w.flagAt s k := by
  rw [flagAt_modify found scenes]
  by_cases hs : s = scene
  · rw [if_pos hs, changed, hs, flagAt_eq found]
    by_cases hk : key = k
    · rw [if_pos hk, if_pos ⟨rfl, hk.symm⟩]
    · rw [if_neg hk, if_neg fun both => hk both.2.symm]
  · rw [if_neg hs, if_neg fun both => hs both.1]

/-- What is written stays when only flags change. -/
theorem fetchAt_modify_flags {w w' : World β} {scene : SceneId} {board : Scene} {f : Scene → Scene}
    (found : w.scenes.get? scene = some board) (scenes : w'.scenes = w.scenes.modify scene f)
    (same : (f board).stored = board.stored) (s : SceneId) (k : String) :
    w'.fetchAt s k = w.fetchAt s k := by
  rw [fetchAt_modify found scenes]
  split
  · rename_i hs
    rw [hs, fetchAt_eq found, Scene.fetch?, same, Scene.fetch?]
  · rfl

/-- A change of a task that leaves it hanging where it was. -/
theorem hanging_modify {w w' : World β} {t : TaskId} {task : Task} {f : Task → Task}
    (at_ : w.tasks.get? t = some task) (tasks : w'.tasks = w.tasks.modify t f) (scene : SceneId)
    (key : String) :
    w'.hanging scene key + (hangsOn scene key task).toNat =
      w.hanging scene key + (hangsOn scene key (f task)).toNat := by
  rw [hanging, tasks]
  exact Table.countWhere_modify at_ _ f

namespace Kept

variable {w w' : World β}

/-- A change that is none to flags, keys, and those who wait for them. -/
theorem of_same (h : Kept w) (flags : w'.flags = w.flags)
    (flagAt : ∀ s k, w'.flagAt s k = w.flagAt s k) (fetchAt : ∀ s k, w'.fetchAt s k = w.fetchAt s k)
    (hanging : ∀ s k, w'.hanging s k = w.hanging s k)
    (waits : ∀ {t task s k ctx}, w'.tasks.get? t = some task → task.errand = .waitFlag s k ctx →
      w.Faithful s k ctx task.progress) : Kept w' where
  count s k := by
    rw [hanging, flagAt]
    exact h.count s k
  known found := by
    rw [flagAt] at found
    rw [flags]
    exact h.known found
  reply? found := by
    rw [flagAt] at found
    rw [flags, fetchAt]
    exact h.reply? found
  alone found found' := by
    rw [flagAt] at found found'
    exact h.alone found found'
  raised fetched := by
    rw [fetchAt] at fetched
    rw [flagAt]
    exact h.raised fetched
  waits at_ errand :=
    (waits at_ errand).of_kept (fun flag found _ => ⟨flag, by rwa [flagAt], rfl⟩)
      fun p hp => by rwa [fetchAt]

theorem of_eq (h : Kept w) (flags : w'.flags = w.flags) (scenes : w'.scenes = w.scenes)
    (tasks : w'.tasks = w.tasks) : Kept w' :=
  h.of_same flags (flagAt_congr scenes) (fetchAt_congr scenes)
    (fun s k => by rw [World.hanging, tasks, World.hanging])
    fun at_ errand => h.waits (tasks ▸ at_) errand

/-- A change of a task that waits for no flag. -/
theorem of_task (h : Kept w) {t : TaskId} {task : Task} {f : Task → Task}
    (at_ : w.tasks.get? t = some task) (flags : w'.flags = w.flags) (scenes : w'.scenes = w.scenes)
    (tasks : w'.tasks = w.tasks.modify t f) (errand : (f task).errand = task.errand)
    (other : ∀ s k ctx, task.errand ≠ .waitFlag s k ctx) : Kept w' := by
  refine h.of_same flags (flagAt_congr scenes) (fetchAt_congr scenes) (fun s k => ?_) ?_
  · have hangs (task' : Task) (he : task'.errand = task.errand) : hangsOn s k task' = false := by
      rw [← Bool.not_eq_true, hangsOn_iff]
      rintro ⟨⟨ctx, flag⟩, -⟩
      exact other s k ctx (he ▸ flag)
    have counted := hanging_modify at_ tasks s k
    rwa [hangs task rfl, hangs (f task) errand] at counted
  · intro j task' s k ctx at' flag
    rw [tasks, Table.get?_modify] at at'
    split at at'
    · rename_i hj
      rw [← hj, at_] at at'
      cases at'
      exact absurd (errand ▸ flag) (other s k ctx)
    · exact h.waits at' flag

/-- A change of the flag of one key. -/
theorem of_flag (h : Kept w) (scene : SceneId) (key : String) {flag? : Option Flag}
    (flagAt : ∀ s k, w'.flagAt s k = if s = scene ∧ k = key then flag? else w.flagAt s k)
    (known : ∀ f, (w.flags.get? f).isSome → (w'.flags.get? f).isSome)
    (others : ∀ s k, ¬(s = scene ∧ k = key) → w'.fetchAt s k = w.fetchAt s k ∧
      ∀ flag, w.flagAt s k = some flag → w'.flags.reply? flag.slot = w.flags.reply? flag.slot)
    (here : ∀ flag, flag? = some flag → (w'.flags.get? flag.slot).isSome ∧
      w'.flags.reply? flag.slot = w'.fetchAt scene key ∧
      ((∃ old, w.flagAt scene key = some old ∧ old.slot = flag.slot) ∨
        w.flags.get? flag.slot = none))
    (raised : ∀ p, w'.fetchAt scene key = some p → flag?.isSome)
    (count : ∀ s k, w'.hanging s k = ((w'.flagAt s k).map (·.waiting)).getD 0)
    (waits : ∀ {t task s k ctx}, w'.tasks.get? t = some task → task.errand = .waitFlag s k ctx →
      w'.Faithful s k ctx task.progress) : Kept w' where
  count := count
  waits := waits
  known {s k flag} found := by
    rw [flagAt] at found
    split at found
    · exact (here flag found).1
    · exact known _ (h.known found)
  reply? {s k flag} found := by
    rw [flagAt] at found
    split at found
    · rename_i hs
      rw [hs.1, hs.2]
      exact (here flag found).2.1
    · rename_i hs
      rw [(others s k hs).1, (others s k hs).2 flag found]
      exact h.reply? found
  raised {s k p} fetched := by
    rw [flagAt]
    split
    · rename_i hs
      exact raised p (hs.1 ▸ hs.2 ▸ fetched)
    · rename_i hs
      exact h.raised ((others s k hs).1 ▸ fetched)
  alone {s k flag s' k' flag'} found found' same := by
    -- a flag elsewhere has neither the slot of the old flag here nor a fresh one
    have away {flag flag' : Flag} (hf : flag? = some flag) {s k} (hs : ¬(s = scene ∧ k = key))
        (found' : w.flagAt s k = some flag') (same : flag.slot = flag'.slot) : False := by
      rcases (here flag hf).2.2 with ⟨old, ho, same'⟩ | fresh
      · obtain ⟨rfl, rfl⟩ := h.alone ho found' (same'.trans same)
        exact hs ⟨rfl, rfl⟩
      · have slot := h.known found'
        rw [← same, fresh] at slot
        cases slot
    rw [flagAt] at found found'
    split at found <;> split at found'
    · rename_i hs hs'
      exact ⟨hs.1.trans hs'.1.symm, hs.2.trans hs'.2.symm⟩
    · rename_i hs hs'
      exact (away found hs' found' same).elim
    · rename_i hs hs'
      exact (away found' hs found same.symm).elim
    · exact h.alone found found' same

end Kept

/-! ### Waits begin and end -/

theorem known_add {flags : Flags} {f : FlagId} (h : (flags.get? f).isSome) :
    ((flags.add {}).get? f).isSome := by
  rw [Table.get?_add]
  split
  · rfl
  · exact h

/-- The flag that the next wait for a key shares, or that the next store raises: the one that there is,
or a new one with a slot of its own. -/
structure NextFlag (w : World β) (scene : SceneId) (key : String) (flag : Flag) : Prop where
  known : ((w.flags.add {}).get? flag.slot).isSome
  reply? : w.flags.reply? flag.slot = w.fetchAt scene key
  waiting : ((w.flagAt scene key).map (·.waiting)).getD 0 = flag.waiting
  same : ∀ {old}, w.flagAt scene key = some old → old = flag
  own : (∃ old, w.flagAt scene key = some old ∧ old.slot = flag.slot) ∨
    w.flags.get? flag.slot = none

theorem Kept.nextFlag {w : World β} (h : Kept w) {scene : SceneId} {board : Scene}
    (found : w.scenes.get? scene = some board) (key : String) :
    w.NextFlag scene key (board.flag key w.flags.next) := by
  have here := flagAt_eq found key
  cases hf : Dict.get? board.flags key with
  | some flag =>
    have there : w.flagAt scene key = some flag := here.trans hf
    rw [show board.flag key w.flags.next = flag by rw [Scene.flag, hf]; rfl]
    refine ⟨known_add (h.known there), h.reply? there, by rw [there]; rfl, fun ho => ?_,
      Or.inl ⟨flag, there, rfl⟩⟩
    exact Option.some.inj (ho.symm.trans there)
  | none =>
    have absent : w.flagAt scene key = none := here.trans hf
    have unwritten : w.fetchAt scene key = none := by
      cases hp : w.fetchAt scene key with
      | none => rfl
      | some p =>
        have raised := h.raised hp
        rw [absent] at raised
        cases raised
    rw [show board.flag key w.flags.next = ⟨w.flags.next, 0⟩ by rw [Scene.flag, hf]; rfl]
    refine ⟨?_, ?_, by rw [absent]; rfl, fun ho => ?_, Or.inr (Table.get?_next w.flags)⟩
    · rw [Table.get?_add, if_pos rfl]
      rfl
    · rw [Table.reply?, Table.get?_next, unwritten]
      rfl
    · rw [absent] at ho
      cases ho

/-- Whoever waited for a flag finds it still, when that of one key has changed but for its slot. -/
theorem NextFlag.stays {w w' : World β} {scene : SceneId} {key : String} {flag new : Flag}
    (next : w.NextFlag scene key flag)
    (flagged : ∀ s k, w'.flagAt s k = if s = scene ∧ k = key then some new else w.flagAt s k)
    (slot : new.slot = flag.slot) {s : SceneId} {k : String} {old : Flag} (ho : w.flagAt s k = some old) :
    ∃ flag', w'.flagAt s k = some flag' ∧ flag'.slot = old.slot := by
  rw [flagged]
  split
  · rename_i hs
    rw [hs.1, hs.2] at ho
    rw [next.same ho]
    exact ⟨new, rfl, slot⟩
  · exact ⟨old, ho, rfl⟩

/-- A wait for a key begins: one more hangs on its flag. -/
theorem Kept.waitFlag {w : World β} (h : Kept w) {t : TaskId} {task : Task} {scene : SceneId}
    {key : String} {ctx : Context} {board : Scene} (at_ : w.tasks.get? t = some task)
    (fresh : task.progress = .fresh) (errand : task.errand = .waitFlag scene key ctx)
    (found : w.scenes.get? scene = some board) :
    Kept ((w.holdFlag scene key).setProgress t
      (.waiting (.flag (board.flag key w.flags.next).slot) ctx)) := by
  have next := h.nextFlag found key
  set flag := board.flag key w.flags.next
  set w' := (w.holdFlag scene key).setProgress t (.waiting (.flag flag.slot) ctx)
  have scenes : w'.scenes = w.scenes.modify scene (·.hold key w.flags.next) := rfl
  have tasks : w'.tasks = w.tasks.modify t fun task =>
      { task with progress := .waiting (.flag flag.slot) ctx } := rfl
  have fetched := fetchAt_modify_flags found scenes rfl
  have flagged := flagAt_modify_key found scenes fun k =>
    Dict.get?_insert board.flags key k { flag with waiting := flag.waiting + 1 }
  have replies (f : FlagId) : w'.flags.reply? f = w.flags.reply? f := Table.reply?_add w.flags f
  refine h.of_flag scene key flagged (fun f hf => known_add hf)
    (fun s k _ => ⟨fetched s k, fun other _ => replies other.slot⟩) (fun other ho => ?_)
    (fun _ _ => rfl) (fun s k => ?_) fun {j task' s k ctx'} at' flag' => ?_
  · cases ho
    exact ⟨next.known, (replies flag.slot).trans (next.reply?.trans (fetched scene key).symm),
      next.own⟩
  · have counted := hanging_modify at_ tasks s k
    have idle : hangsOn s k task = false := by
      rw [← Bool.not_eq_true, hangsOn_iff]
      rintro ⟨-, begun, -⟩
      rw [Task.isBegun, fresh] at begun
      cases begun
    have hangs : hangsOn s k { task with progress := .waiting (.flag flag.slot) ctx } =
        decide (s = scene ∧ k = key) := by
      simp only [hangsOn, errand, Task.isBegun, Task.isOver]
      grind
    rw [idle, hangs, h.count s k] at counted
    rw [flagged]
    by_cases hs : s = scene ∧ k = key
    · rw [if_pos hs]
      rw [hs.1, hs.2, next.waiting] at counted
      rw [hs.1, hs.2]
      simpa using counted
    · rw [if_neg hs]
      simpa [hs] using counted
  · rw [tasks, Table.get?_modify] at at'
    split at at'
    · rename_i hj
      rw [← hj, at_] at at'
      cases at'
      cases errand.symm.trans flag'
      have held : w'.flagAt scene key = some { flag with waiting := flag.waiting + 1 } := by
        rw [flagged, if_pos ⟨rfl, rfl⟩]
      have holding : w'.Faithful scene key ctx _ := .waiting held
      exact holding
    · exact (h.waits at' flag').of_kept (fun old ho _ => next.stays flagged rfl ho)
        fun p hp => (fetched s k).trans hp

/-- A key is written and its flag raised. -/
theorem Kept.store {w : World β} (h : Kept w) {scene : SceneId} {key : String} {board : Scene}
    (found : w.scenes.get? scene = some board) (free : board.fetch? key = none) (p : Payload) :
    Kept { w with
      flags := (w.flags.add {}).set (board.flag key w.flags.next).slot p
      scenes := w.scenes.modify scene (·.store key p w.flags.next) } := by
  have next := h.nextFlag found key
  set flag := board.flag key w.flags.next
  set w' : World β := { w with
    flags := (w.flags.add {}).set flag.slot p
    scenes := w.scenes.modify scene (·.store key p w.flags.next) }
  have scenes : w'.scenes = w.scenes.modify scene (·.store key p w.flags.next) := rfl
  have unwritten : w.fetchAt scene key = none := (fetchAt_eq found key).trans free
  have fetched (s : SceneId) (k : String) :
      w'.fetchAt s k = if s = scene ∧ k = key then some p else w.fetchAt s k := by
    rw [fetchAt_modify found scenes]
    by_cases hs : s = scene
    · rw [if_pos hs, Scene.fetch?, Scene.store, Dict.get?_insert]
      by_cases hk : key = k
      · rw [if_pos hk, if_pos ⟨hs, hk.symm⟩]
      · rw [if_neg hk, if_neg fun both => hk both.2.symm, hs, fetchAt_eq found, Scene.fetch?]
    · rw [if_neg hs, if_neg fun both => hs both.1]
  have flagged := flagAt_modify_key found scenes fun k => Dict.get?_insert board.flags key k flag
  have replies (f : FlagId) : w'.flags.reply? f =
      if flag.slot = f ∧ ((w.flags.add {}).get? f).isSome then (w.flags.reply? f).or (some p)
      else w.flags.reply? f := by
    have set_ := Table.reply?_set (w.flags.add {}) flag.slot f p
    rwa [Table.reply?_add] at set_
  have here : w'.flags.reply? flag.slot = some p := by
    rw [replies, if_pos ⟨rfl, next.known⟩, next.reply?, unwritten]
    rfl
  have stays (f : FlagId) (hf : ((w.flags.add {}).get? f).isSome) : (w'.flags.get? f).isSome := by
    rw [show w'.flags = (w.flags.add {}).modify flag.slot _ from rfl, Table.get?_modify]
    split
    · rwa [Option.isSome_map]
    · exact hf
  refine h.of_flag scene key flagged (fun f hf => stays f (known_add hf)) (fun s k hs => ?_)
    (fun other ho => ?_) (fun _ _ => rfl) (fun s k => ?_) fun {j task s k ctx} at_ errand => ?_
  · refine ⟨(fetched s k).trans (if_neg hs), fun other ho => (replies other.slot).trans (if_neg ?_)⟩
    rintro ⟨same, -⟩
    rcases next.own with ⟨old, there, slot⟩ | fresh
    · exact hs (h.alone ho there (same.symm.trans slot.symm))
    · have known := h.known ho
      rw [← same, fresh] at known
      cases known
  · cases ho
    exact ⟨stays flag.slot next.known,
      here.trans ((fetched scene key).trans (if_pos ⟨rfl, rfl⟩)).symm, next.own⟩
  · refine (h.count s k).trans ?_
    rw [flagged]
    split
    · rename_i hs
      rw [hs.1, hs.2]
      exact next.waiting
    · rfl
  · refine (h.waits at_ errand).of_kept (fun old ho _ => next.stays flagged rfl ho) fun q hq => ?_
    rw [fetched, if_neg, hq]
    rintro ⟨rfl, rfl⟩
    rw [unwritten] at hq
    cases hq

/-- What a wait for a key brings back when it ends. -/
theorem Ends.faithful {w : World β} (h : Kept w) {task : Task} {last : Progress}
    (ends : Ends w task last) {scene : SceneId} {key : String} {ctx : Context}
    (errand : task.errand = .waitFlag scene key ctx)
    (faithful : w.Faithful scene key ctx task.progress) : w.Faithful scene key ctx last := by
  cases ends with
  | aborted => exact .aborted
  | @answered slot ctx' r waiting answered =>
    rw [waiting] at faithful
    cases faithful with
    | waiting found =>
      rw [errand]
      cases r with
      | ok p => exact .replied ((h.reply? found).symm.trans (waitResult?_eq_ok answered))
      | error e => exact .expired e
  | late waiting h =>
    rw [errand]
    exact .expired _
  | unsent sends err =>
    have other := sends ⟨0⟩ ctx
    rw [errand] at other
    exact other.elim
  | watched h | slept h | reminded h | shutDown h =>
    rw [h] at faithful
    cases faithful

/-- What is left of a flag when one less waits for its key. -/
def lessened (flag : Flag) (written : Option Payload) : Option Flag :=
  if flag.waiting ≤ 1 ∧ written = none then none
  else some { flag with waiting := flag.waiting - 1 }

theorem slot_lessened {flag left : Flag} {written : Option Payload}
    (h : lessened flag written = some left) : left.slot = flag.slot := by
  unfold lessened at h
  split at h <;> cases h
  rfl

theorem waiting_lessened (flag : Flag) (written : Option Payload) :
    ((lessened flag written).map (·.waiting)).getD 0 = flag.waiting - 1 := by
  unfold lessened
  split
  · simp only [Option.map_none, Option.getD_none]
    omega
  · rfl

theorem flag_unhold (board : Scene) (key k : String) :
    Dict.get? (board.unhold key).flags k =
      if key = k then (Dict.get? board.flags key).bind (lessened · (board.fetch? key))
      else Dict.get? board.flags k := by
  unfold Scene.unhold
  cases hf : Dict.get? board.flags key with
  | none =>
    dsimp only
    split
    · rename_i hk
      rw [← hk, hf]
      rfl
    · rfl
  | some flag =>
    have unwritten : (!Dict.contains board.stored key) = true ↔ board.fetch? key = none := by
      rw [Dict.contains, Scene.fetch?, Bool.not_eq_true', Option.isSome_eq_false_iff,
        Option.isNone_iff_eq_none]
    simp only [unwritten, Option.bind_some, lessened]
    split
    · exact Dict.get?_erase board.flags key k
    · exact Dict.get?_insert board.flags key k _

/-- A wait for a key that has begun and is not over waits for the flag of the key. -/
theorem Kept.waiting {w : World β} (h : Kept w) {t : TaskId} {task : Task} {scene : SceneId}
    {key : String} {ctx : Context} (at_ : w.tasks.get? t = some task)
    (errand : task.errand = .waitFlag scene key ctx) (begun : task.isBegun = true)
    (live : task.isOver = false) :
    ∃ flag, w.flagAt scene key = some flag ∧ task.progress = .waiting (.flag flag.slot) ctx := by
  have faithful := h.waits at_ errand
  rw [Task.isBegun] at begun
  rw [Task.isOver] at live
  generalize task.progress = progress at faithful begun live
  cases faithful with
  | waiting found => exact ⟨_, found, rfl⟩
  | fresh => cases begun
  | replied | expired | aborted => cases live

section

variable {w w' : World β} {t : TaskId} {task : Task} {last : Progress}

/-- A task that ended hangs on no flag. -/
theorem hanging_stop (at_ : w.tasks.get? t = some task) (ends : Ends w task last)
    (tasks : w'.tasks = w.tasks.modify t fun task =>
      { task with progress := last, seen := w.waiters }) (s : SceneId) (k : String) :
    w'.hanging s k + (hangsOn s k task).toNat = w.hanging s k := by
  have idle : hangsOn s k { task with progress := last, seen := w.waiters } = false := by
    rw [← Bool.not_eq_true, hangsOn_iff, ends.isOver _ rfl]
    simp
  rw [hanging_modify at_ tasks, idle]
  rfl

/-- It brought back what it should, and the others go on as before. -/
theorem Kept.faithful_stop (h : Kept w) (at_ : w.tasks.get? t = some task) (ends : Ends w task last)
    (tasks : w'.tasks = w.tasks.modify t fun task =>
      { task with progress := last, seen := w.waiters })
    {j : TaskId} {task' : Task} {s : SceneId} {k : String} {ctx : Context}
    (at' : w'.tasks.get? j = some task') (errand : task'.errand = .waitFlag s k ctx) :
    w.Faithful s k ctx task'.progress := by
  rw [tasks, Table.get?_modify] at at'
  split at at'
  · rename_i hj
    rw [← hj, at_] at at'
    cases at'
    exact ends.faithful h errand (h.waits at_ errand)
  · exact h.waits at' errand

/-- The end of a task that hung on no flag. -/
theorem Kept.stop_idle (h : Kept w) (at_ : w.tasks.get? t = some task) (ends : Ends w task last)
    (idle : ∀ s k, hangsOn s k task = false) (flags : w'.flags = w.flags)
    (scenes : w'.scenes = w.scenes)
    (tasks : w'.tasks = w.tasks.modify t fun task =>
      { task with progress := last, seen := w.waiters }) : Kept w' := by
  refine h.of_same flags (flagAt_congr scenes) (fetchAt_congr scenes) (fun s k => ?_)
    (h.faithful_stop at_ ends tasks)
  have counted := hanging_stop at_ ends tasks s k
  rwa [idle] at counted

/-- A wait for a key ends: one less hangs on its flag. -/
theorem Kept.stop (h : Kept w) (at_ : w.tasks.get? t = some task) (ends : Ends w task last)
    {scene : SceneId} {key : String} (hangs : hangsOn scene key task = true)
    (flags : w'.flags = w.flags) (scenes : w'.scenes = w.scenes.modify scene (·.unhold key))
    (tasks : w'.tasks = w.tasks.modify t fun task =>
      { task with progress := last, seen := w.waiters }) : Kept w' := by
  obtain ⟨⟨ctx, errand⟩, begun, live⟩ := hangsOn_iff.mp hangs
  obtain ⟨flag, hf, -⟩ := h.waiting at_ errand begun live
  obtain ⟨board, found, hflag⟩ := Option.bind_eq_some_iff.mp hf
  have fetched := fetchAt_modify_flags found scenes (stored_unhold board key)
  have flagged (s : SceneId) (k : String) : w'.flagAt s k =
      if s = scene ∧ k = key then lessened flag (w.fetchAt scene key) else w.flagAt s k := by
    refine flagAt_modify_key found scenes (fun k => ?_) s k
    rw [flag_unhold, hflag, fetchAt_eq found]
    rfl
  have count (s : SceneId) (k : String) :
      w'.hanging s k = ((w'.flagAt s k).map (·.waiting)).getD 0 := by
    have counted := hanging_stop at_ ends tasks s k
    rw [h.count s k] at counted
    rw [flagged]
    by_cases hs : s = scene ∧ k = key
    · rw [hs.1, hs.2, hf, hangs] at counted
      rw [if_pos hs, waiting_lessened, hs.1, hs.2]
      exact Nat.eq_sub_of_add_eq counted
    · have elsewhere : hangsOn s k task = false := by
        rw [← Bool.not_eq_true, hangsOn_iff]
        rintro ⟨⟨ctx', errand'⟩, -⟩
        cases errand.symm.trans errand'
        exact hs ⟨rfl, rfl⟩
      rw [if_neg hs]
      rwa [elsewhere] at counted
  refine h.of_flag scene key flagged (fun f hf => flags ▸ hf)
    (fun s k _ => ⟨fetched s k, fun other _ => by rw [flags]⟩) (fun left hl => ?_)
    (fun p hp => ?_) count fun {j task' s k ctx'} at' errand' => ?_
  · rw [slot_lessened hl, flags, fetched]
    exact ⟨h.known hf, h.reply? hf, Or.inl ⟨flag, hf, rfl⟩⟩
  · rw [fetched] at hp
    rw [lessened, if_neg (by simp [hp])]
    rfl
  · refine (h.faithful_stop at_ ends tasks at' errand').of_kept (fun old ho waiting => ?_)
      fun p hp => (fetched s k).trans hp
    -- whoever still waits is counted, so that the flag is still there
    have hangs' : hangsOn s k task' = true := hangsOn_iff.mpr
      ⟨⟨ctx', errand'⟩, by rw [Task.isBegun, waiting], by rw [Task.isOver, waiting]⟩
    have some_ : 0 < w'.hanging s k := Table.countWhere_pos_iff.mpr ⟨j, task', at', hangs'⟩
    rw [count] at some_
    cases hl : w'.flagAt s k with
    | none =>
      rw [hl] at some_
      cases some_
    | some left =>
      refine ⟨left, rfl, ?_⟩
      rw [flagged] at hl
      split at hl
      · rename_i hs
        rw [hs.1, hs.2, hf] at ho
        cases ho
        exact slot_lessened hl
      · rw [ho] at hl
        cases hl
        rfl

end

/-- Only a task that hangs on a flag lets go of one when it ends. -/
theorem leave_cases {task : Task} (live : task.isOver = false) (scenes : Scenes) :
    (∃ scene key, hangsOn scene key task = true ∧
      task.leave scenes = scenes.modify scene (·.unhold key)) ∨
    (∀ scene key, hangsOn scene key task = false) ∧ task.leave scenes = scenes := by
  unfold Task.leave
  split
  · rename_i scene key ctx errand
    split
    · rename_i begun
      exact Or.inl ⟨scene, key, hangsOn_iff.mpr ⟨⟨ctx, errand⟩, begun, live⟩, rfl⟩
    · rename_i begun
      refine Or.inr ⟨fun s k => ?_, rfl⟩
      rw [← Bool.not_eq_true, hangsOn_iff]
      exact fun hangs => begun hangs.2.1
  · rename_i other
    refine Or.inr ⟨fun s k => ?_, rfl⟩
    rw [← Bool.not_eq_true, hangsOn_iff]
    exact fun ⟨⟨ctx, errand⟩, _⟩ => other s k ctx errand

/-- **Every piece of a turn keeps the flags.** -/
theorem Piece.kept {t : TaskId} {w w' : World β} (h : Piece t w w') (kept : Kept w) : Kept w' := by
  cases h with
  | beside waits ready =>
    exact kept.of_eq (congrArg Waits.flags waits) (congrArg Waits.scenes waits)
      (congrArg Waits.tasks waits)
  | addWaiter => exact kept.of_eq rfl rfl rfl
  | wait at_ fresh awaits =>
    refine kept.of_task at_ rfl rfl rfl rfl fun s k ctx errand => ?_
    rw [errand] at awaits
    exact awaits
  | waitFlag at_ fresh errand found => exact kept.waitFlag at_ fresh errand found
  | pause at_ fresh pauses =>
    refine kept.of_task at_ rfl rfl rfl rfl fun s k ctx errand => ?_
    rw [errand] at pauses
    exact pauses
  | @stop task last at_ live ends =>
    have waits := waits_endTask at_ last
    have flags : (w.endTask t last).flags = w.flags := congrArg Waits.flags waits
    have scenes : (w.endTask t last).scenes = task.leave w.scenes := congrArg Waits.scenes waits
    have tasks := congrArg Waits.tasks waits
    rcases leave_cases live w.scenes with ⟨scene, key, hangs, left⟩ | ⟨idle, left⟩
    · exact kept.stop at_ ends hangs flags (scenes.trans left) tasks
    · exact kept.stop_idle at_ ends idle flags (scenes.trans left) tasks

theorem Kept.addScene {w : World β} (h : Kept w) : Kept w.addScene.2 := by
  have found (s : SceneId) : w.addScene.2.scenes.get? s =
      if s = w.scenes.next then some {} else w.scenes.get? s := Table.get?_add w.scenes {} s
  refine h.of_same rfl (fun s k => ?_) (fun s k => ?_) (fun _ _ => rfl) h.waits
  · rw [flagAt, found, flagAt]
    split
    · rename_i hs
      rw [hs, Table.get?_next]
      rfl
    · rfl
  · rw [fetchAt, writtenOn, found, fetchAt, writtenOn]
    split
    · rename_i hs
      rw [hs, Table.get?_next]
      rfl
    · rfl

/-- Whether a task is to be given up does not matter to flags until it is. -/
theorem Kept.doom {w w' : World β} (h : Kept w) {t : TaskId} (flags : w'.flags = w.flags)
    (scenes : w'.scenes = w.scenes)
    (tasks : w'.tasks = w.tasks.modify t fun task => { task with doomed := true }) : Kept w' := by
  refine h.of_same flags (flagAt_congr scenes) (fetchAt_congr scenes) (fun s k => ?_)
    fun {j task s k ctx} at' flag => ?_
  · cases at_ : w.tasks.get? t with
    | none => rw [hanging, tasks, Table.modify_eq_self at_, hanging]
    | some task => exact Nat.add_right_cancel (hanging_modify at_ tasks s k)
  · rw [tasks, Table.get?_modify] at at'
    split at at'
    · obtain ⟨task', at_, rfl⟩ := Option.map_eq_some_iff.mp at'
      have faithful := h.waits at_ flag
      exact faithful
    · exact h.waits at' flag

/-- A task that is yet to begin hangs on no flag. -/
theorem Kept.spawn {w w' : World β} (h : Kept w) (errand : Errand) (flags : w'.flags = w.flags)
    (scenes : w'.scenes = w.scenes) (tasks : w'.tasks = w.tasks.add { errand }) : Kept w' := by
  refine h.of_same flags (flagAt_congr scenes) (fetchAt_congr scenes) (fun s k => ?_)
    fun {t task s k ctx} at' flag => ?_
  · have idle : hangsOn s k { errand } = false := by
      rw [← Bool.not_eq_true, hangsOn_iff]
      exact fun hangs => Bool.false_ne_true hangs.2.1
    rw [hanging, tasks, Table.countWhere_add, idle]
    rfl
  · rw [tasks, Table.get?_add] at at'
    split at at'
    · cases at'
      exact .fresh
    · exact h.waits at' flag

theorem Kept.pieces {t : TaskId} {w w' : World β} (h : Kept w) (pieces : Pieces t w w') :
    Kept w' := by
  induction pieces with
  | refl => exact h
  | tail _ piece ih => exact piece.kept ih

/-- **Every stir keeps the flags.** -/
theorem Stir.kept {w w' : World β} {marks : List Mark} (h : Stir w marks w') (kept : Kept w) :
    Kept w' := by
  rcases h.cases with ⟨t, -, rfl⟩ | change
  · exact kept.pieces (pieces_stepTask w t)
  generalize hside : w'.waits = side at change
  have flags : w'.flags = side.flags := congrArg Waits.flags hside
  have scenes : w'.scenes = side.scenes := congrArg Waits.scenes hside
  have tasks : w'.tasks = side.tasks := congrArg Waits.tasks hside
  cases change with
  | addScene => exact kept.addScene.of_eq flags scenes tasks
  | write found free p => exact (kept.store found free p).of_eq flags scenes tasks
  | spawn errand => exact kept.spawn errand flags scenes tasks
  | doom t => exact kept.doom flags scenes tasks
  | nothing | woke | addWaiter | answer | refuse | derive | cancel | drop | pass =>
    exact kept.of_eq flags scenes tasks

theorem Stirs.kept {wall : Wall} {log : List Mark} {w : World β}
    (h : Stirs (startingAt wall) log w) : Kept w := by
  induction h with
  | refl =>
    exact ⟨fun _ _ => rfl, (fun found => by cases found), (fun found => by cases found),
      (fun found => by cases found), (fun found => by cases found), (fun at_ => by cases at_)⟩
  | tail _ s ih => exact s.kept ih

end EventMesh.World
