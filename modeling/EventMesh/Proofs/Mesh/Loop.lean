import EventMesh.Proofs.Mesh.Run
import Mathlib.Logic.Function.Basic
import Mathlib.Tactic.Set

/-!
# The loops of cells, step by step

A `Hand` is what the loop of an incarnation is at: nothing, an event, a panic to recover from, or its
last call. A `Step` is a deed of anybody or one step of a loop between two calls of its behavior;
deeds of a call in progress lie between the steps that begin and end it, so that calls of several
incarnations, and whatever callers do, may interleave in any way. Main statements: what holds over
the parts of the turn of a cell holds over all of it (`Tracks.stepCell`), so that such a turn is a
sequence of steps (`steps_stepCell`), every run is one (`steps_run`), and what every step preserves
holds after any sequence of them (`Steps.preserves`).
-/

namespace EventMesh

/-- What the loop of an incarnation is at. -/
inductive Hand where
  | idle
  /-- An event is being handled. -/
  | event (e : Event)
  /-- A panic is being recovered from. -/
  | fault (f : BehaviorError)
  /-- The last call is being made. -/
  | last

/-- What a loop is at after an event was handled with the given outcome. -/
def Hand.afterEvent : Outcome → Hand
  | .done | .failed _ => .idle
  | .panicked p => .fault (.panicked p.text)

namespace Cell

variable {β : Type}

/-- A step of a loop that goes on, and what the loop is at before and after it. -/
inductive Worked : Hand → Cell β → Hand → Cell β → Prop
  | take {c : Cell β} {e : Event} {rest : List Event}
      (hp : c.phase = .running ∨ c.phase = .draining) (hq : c.queue = e :: rest) :
      Worked .idle c (.event e) { c with queue := c.queue.tail }
  | handled (c : Cell β) (e : Event) (outcome : Outcome) (resident : β) :
      Worked (.event e) c (.afterEvent outcome) (c.after (.process e outcome) resident)
  | recovered (c : Cell β) (fault : BehaviorError) (resident : β) :
      Worked (.fault fault) c .idle (c.after (.recover fault .done) resident)
  | brokeOff (c : Cell β) (fault : BehaviorError) (p : Panic) (resident : β) :
      Worked (.fault fault) c .idle
        { c.after (.recover fault (.panicked p)) resident with phase := .crashed, queue := [] }
  | terminated (c : Cell β) (outcome : Outcome) (resident : β) :
      Worked .last c .idle (c.after (.terminate outcome) resident)

/-- The end of a loop that still makes its last call. -/
inductive Left : Hand → Cell β → Cell β → Prop
  | gaveUp (c : Cell β) (fault err : BehaviorError) (resident : β) :
      Left (.fault fault) c
        { c.after (.recover fault (.failed err)) resident with phase := .ended, queue := [] }
  | drained {c : Cell β} (hp : c.phase = .draining) (hq : c.queue = []) :
      Left .idle c { c with phase := .ended, queue := [] }

end Cell

namespace World

open Function

variable {β : Type}

/-- All hands are empty. -/
abbrev atRest : CellKey → Hand := fun _ => .idle

/-- The world with another state of an incarnation. -/
def put (w : World β) (key : CellKey) (c : Cell β) : World β := w.modifyCell key fun _ => c

theorem get?_put {w : World β} {key : CellKey} {c : Cell β} (hc : w.cells.get? key = some c)
    (c' : Cell β) (j : CellKey) :
    (w.put key c').cells.get? j = if key = j then some c' else w.cells.get? j := by
  rw [put, get?_modifyCell]
  split
  · rename_i hj
    rw [← hj, hc]
    rfl
  · rfl

theorem modifyCell_eq_put {w : World β} {key : CellKey} {c : Cell β}
    (hc : w.cells.get? key = some c) (f : Cell β → Cell β) :
    w.modifyCell key f = w.put key (f c) := by
  rw [put, modifyCell, Table.modify_congr hc (g := fun _ => f c) rfl]
  rfl

theorem put_put (w : World β) (key : CellKey) (c c' : Cell β) :
    (w.put key c).put key c' = w.put key c' := by
  simp only [put, modifyCell, Table.modify_modify]
  rfl

/-- A deed of anybody, or a step of a loop. -/
inductive Step (w : World β) (hand : CellKey → Hand) : World β → (CellKey → Hand) → Prop
  | deed {floor : Nat} {w' : World β} (d : Deed floor w w') : Step w hand w' hand
  | work {key : CellKey} {c c' : Cell β} {next : Hand} (hc : w.cells.get? key = some c)
      (h : Cell.Worked (hand key) c next c') : Step w hand (w.put key c') (update hand key next)
  | leave {key : CellKey} {c c' : Cell β} (hc : w.cells.get? key = some c)
      (h : Cell.Left (hand key) c c') :
      Step w hand ((w.put key c').deregister key) (update hand key .last)
  | dismiss {key : CellKey} (h : ∀ c, w.cells.get? key = some c → c.phase ≠ .draining ∧
      (c.phase = .running → c.queue = [])) : Step w hand (w.dismiss (.cell key)) hand

/-- Steps one after the other. -/
inductive Steps (w : World β) (hand : CellKey → Hand) : World β → (CellKey → Hand) → Prop
  | refl : Steps w hand w hand
  | tail {w₁ w₂ : World β} {hand₁ hand₂ : CellKey → Hand} (h : Steps w hand w₁ hand₁)
      (s : Step w₁ hand₁ w₂ hand₂) : Steps w hand w₂ hand₂

namespace Steps

variable {w w₁ w₂ : World β} {hand hand₁ hand₂ : CellKey → Hand}

theorem trans (h : Steps w hand w₁ hand₁) (h' : Steps w₁ hand₁ w₂ hand₂) :
    Steps w hand w₂ hand₂ := by
  induction h' with
  | refl => exact h
  | tail _ s ih => exact ih.tail s

theorem course (h : Steps w hand w₁ hand₁) (c : Course w₁ w₂) : Steps w hand w₂ hand₁ := by
  induction c with
  | refl => exact h
  | tail _ d ih => exact ih.tail (.deed d)

/-- What every step preserves, a sequence of steps preserves. -/
theorem preserves {P : World β → (CellKey → Hand) → Prop}
    (step : ∀ {w w' hand hand'}, Step w hand w' hand' → P w hand → P w' hand')
    (h : Steps w hand w₁ hand₁) (hw : P w hand) : P w₁ hand₁ := by
  induction h with
  | refl => exact hw
  | tail _ s ih => exact step s ih

end Steps

/-! ### The turn of a cell -/

theorem deregister_cells (w : World β) (key : CellKey) : (w.deregister key).cells = w.cells := by
  unfold deregister
  split <;> rfl

section Turn

variable {w w₁ : World β} {hand : CellKey → Hand} {key : CellKey} {c c' : Cell β} {held next : Hand}

theorem update_idle (free : hand key = .idle) : update hand key .idle = hand := by
  rw [← free]
  exact update_eq_self key hand

/-- A relation between moments that holds over the turn of a cell because it holds over the parts of
one: the steps of the loop and the calls of the behavior in between. -/
structure Tracks (R : World β → (CellKey → Hand) → World β → (CellKey → Hand) → Prop) : Prop where
  trans : ∀ {w w₁ w₂ hand hand₁ hand₂}, R w hand w₁ hand₁ → R w₁ hand₁ w₂ hand₂ → R w hand w₂ hand₂
  work : ∀ {w hand key c next c'}, w.cells.get? key = some c →
    Cell.Worked (hand key) c next c' → R w hand (w.put key c') (update hand key next)
  leave : ∀ {w hand key c c'}, w.cells.get? key = some c → Cell.Left (hand key) c c' →
    R w hand ((w.put key c').deregister key) (update hand key .last)
  dismiss : ∀ {w hand key}, (∀ c, w.cells.get? key = some c → c.phase ≠ .draining ∧
    (c.phase = .running → c.queue = [])) → R w hand (w.dismiss (.cell key)) hand
  wake : ∀ w hand, R w hand w.wake hand
  perform : ∀ s w hand, R w hand (perform s w).2.2 hand

namespace Tracks

variable {R : World β → (CellKey → Hand) → World β → (CellKey → Hand) → Prop}

/-- One step of the loop of an incarnation after others. -/
theorem after_work (tracks : Tracks R) (h : R w hand w₁ (update hand key held))
    (hc : w₁.cells.get? key = some c) (step : Cell.Worked held c next c') :
    R w hand (w₁.put key c') (update hand key next) := by
  have worked : R w₁ (update hand key held) (w₁.put key c')
      (update (update hand key held) key next) :=
    tracks.work hc (by rwa [update_self])
  rw [update_idem] at worked
  exact tracks.trans h worked

theorem after_leave (tracks : Tracks R) (h : R w hand w₁ (update hand key held))
    (hc : w₁.cells.get? key = some c) (step : Cell.Left held c c') :
    R w hand ((w₁.put key c').deregister key) (update hand key .last) := by
  have left : R w₁ (update hand key held) ((w₁.put key c').deregister key)
      (update (update hand key held) key .last) :=
    tracks.leave hc (by rwa [update_self])
  rw [update_idem] at left
  exact tracks.trans h left

variable [Behavior β]

/-- The last call, once the loop is left. -/
theorem finish (tracks : Tracks R) (resident : β)
    (h : R w hand ((w₁.modifyCell key fun c => { c with phase := .ended, queue := [] }).deregister
      key) (update hand key .last)) (hc : w₁.cells.get? key = some c) :
    R w hand (w₁.finish key resident) (update hand key .idle) := by
  set left := (w₁.modifyCell key fun c => { c with phase := .ended, queue := [] }).deregister key
    with left_def
  have hleft : left.cells.get? key = some { c with phase := .ended, queue := [] } := by
    rw [left_def, deregister_cells, get?_modifyCell, if_pos rfl, hc]
    rfl
  have called := tracks.trans h (tracks.perform (Behavior.terminate resident) left _)
  obtain ⟨c₂, hc₂, -⟩ := (course_perform (Behavior.terminate resident) left).kept key _ hleft
  unfold World.finish
  dsimp only
  rw [← left_def]
  generalize World.perform (Behavior.terminate resident) left = result at called hc₂ ⊢
  obtain ⟨resident, outcome, w₂⟩ := result
  dsimp only at called hc₂ ⊢
  rw [modifyCell_eq_put hc₂]
  exact tracks.trans (tracks.after_work called hc₂ (.terminated c₂ outcome resident))
    (tracks.wake _ _)

/-- The recovery from a panic, whatever comes of it. -/
theorem rescue (tracks : Tracks R) (resident : β) (fault : BehaviorError)
    (h : R w hand w₁ (update hand key (.fault fault))) (hc : w₁.cells.get? key = some c) :
    R w hand (w₁.rescue key resident fault) (update hand key .idle) := by
  have called := tracks.trans h (tracks.perform (Behavior.recover resident fault) w₁ _)
  obtain ⟨c₂, hc₂, -⟩ := (course_perform (Behavior.recover resident fault) w₁).kept key c hc
  unfold World.rescue
  generalize World.perform (Behavior.recover resident fault) w₁ = result at called hc₂ ⊢
  obtain ⟨resident, outcome, w₂⟩ := result
  have hput : ∀ outcome, w₂.modifyCell key (·.after (.recover fault outcome) resident) =
      w₂.put key (c₂.after (.recover fault outcome) resident) :=
    fun outcome => modifyCell_eq_put hc₂ _
  cases outcome with
  | done =>
    dsimp only
    rw [hput]
    exact tracks.after_work called hc₂ (.recovered c₂ fault resident)
  | failed err =>
    dsimp only
    rw [hput]
    have known : (w₂.put key (c₂.after (.recover fault (.failed err)) resident)).cells.get? key =
        some (c₂.after (.recover fault (.failed err)) resident) := by
      rw [get?_put hc₂, if_pos rfl]
    refine tracks.finish resident ?_ known
    rw [modifyCell_eq_put known, put_put]
    exact tracks.after_leave called hc₂ (.gaveUp c₂ fault err resident)
  | panicked p =>
    dsimp only
    rw [hput]
    have known : (w₂.put key (c₂.after (.recover fault (.panicked p)) resident)).cells.get? key =
        some (c₂.after (.recover fault (.panicked p)) resident) := by
      rw [get?_put hc₂, if_pos rfl]
    rw [modifyCell_eq_put known, put_put]
    exact tracks.trans (tracks.after_work called hc₂ (.brokeOff c₂ fault p resident))
      (tracks.wake _ _)

/-- The handling of an event, with the recovery if there is one. -/
theorem handle (tracks : Tracks R) (e : Event) (rest : List Event) (free : hand key = .idle)
    (hc : w.cells.get? key = some c) (hp : c.phase = .running ∨ c.phase = .draining)
    (hq : c.queue = e :: rest) : R w hand (w.handle key c.resident e) hand := by
  have taken : R w hand (w.put key { c with queue := c.queue.tail }) (update hand key (.event e)) :=
    tracks.work hc (by rw [free]; exact .take hp hq)
  have known : (w.put key { c with queue := c.queue.tail }).cells.get? key =
      some { c with queue := c.queue.tail } := by
    rw [get?_put hc, if_pos rfl]
  have called := tracks.trans taken (tracks.perform (Behavior.process c.resident e) _ _)
  obtain ⟨c₂, hc₂, -⟩ := (course_perform (Behavior.process c.resident e) _).kept key _ known
  unfold World.handle
  dsimp only
  rw [modifyCell_eq_put hc]
  generalize World.perform (Behavior.process c.resident e) _ = result at called hc₂ ⊢
  obtain ⟨resident, outcome, w₂⟩ := result
  dsimp only at called hc₂ ⊢
  have worked := tracks.after_work called hc₂ (.handled c₂ e outcome resident)
  rw [modifyCell_eq_put hc₂]
  cases outcome with
  | done =>
    rwa [Hand.afterEvent, update_idle free] at worked
  | failed err =>
    rwa [Hand.afterEvent, update_idle free] at worked
  | panicked p =>
    have rescued := tracks.rescue resident (.panicked p.text) worked
      (by rw [get?_put hc₂, if_pos rfl])
    rwa [update_idle free] at rescued

/-- **Over the turn of a cell** holds what holds over the parts of one. -/
theorem stepCell (tracks : Tracks R) (w : World β) (free : hand key = .idle) :
    R w hand (w.stepCell key) hand := by
  unfold World.stepCell
  cases hc : w.cells.get? key with
  | none =>
    refine tracks.dismiss ?_
    rw [hc]
    rintro c ⟨⟩
  | some c =>
    dsimp only
    split
    · rename_i hp hq
      exact tracks.handle _ _ free hc (Or.inl hp) hq
    · rename_i hp hq
      exact tracks.handle _ _ free hc (Or.inr hp) hq
    · rename_i hp hq
      have left : R w hand ((w.put key { c with phase := .ended, queue := [] }).deregister key)
          (update hand key .last) :=
        tracks.leave hc (by rw [free]; exact .drained hp hq)
      rw [← modifyCell_eq_put hc (fun c => { c with phase := .ended, queue := [] })] at left
      have finished := tracks.finish c.resident left hc
      rwa [update_idle free] at finished
    · rename_i notRunning notDraining notDrained
      refine tracks.dismiss ?_
      rw [hc]
      rintro c' ⟨⟩
      refine ⟨?_, ?_⟩
      · intro hp
        cases hq : c.queue with
        | nil => exact notDrained hp hq
        | cons e rest => exact notDraining e rest hp hq
      · intro hp
        cases hq : c.queue with
        | nil => rfl
        | cons e rest => exact absurd hq (notRunning e rest hp)

end Tracks

theorem tracks_steps : Tracks (Steps (β := β)) where
  trans := Steps.trans
  work hc h := Steps.refl.tail (.work hc h)
  leave hc h := Steps.refl.tail (.leave hc h)
  dismiss h := Steps.refl.tail (.dismiss h)
  wake w _ := Steps.refl.course (.aside (aside_wake w))
  perform s w _ := Steps.refl.course (course_perform s w)

/-- A turn of a cell does nothing but take it off the ready jobs, or ends its loop, or handles the oldest
event of its queue. -/
theorem stepCell_cases [Behavior β] {w : World β} {key : CellKey} {c : Cell β}
    (hc : w.cells.get? key = some c) :
    w.stepCell key = w.dismiss (.cell key) ∨
      c.queue = [] ∧ w.stepCell key = w.finish key c.resident ∨
      ∃ e rest, (c.phase = .running ∨ c.phase = .draining) ∧ c.queue = e :: rest ∧
        w.stepCell key = w.handle key c.resident e := by
  unfold World.stepCell
  rw [hc]
  dsimp only
  split
  · rename_i hp hq
    exact Or.inr (Or.inr ⟨_, _, Or.inl hp, hq, rfl⟩)
  · rename_i hp hq
    exact Or.inr (Or.inr ⟨_, _, Or.inr hp, hq, rfl⟩)
  · rename_i hq
    exact Or.inr (Or.inl ⟨hq, rfl⟩)
  · exact Or.inl rfl

/-- The turn of a cell is a sequence of steps. -/
theorem steps_stepCell [Behavior β] (w : World β) (hand : CellKey → Hand) (key : CellKey)
    (free : hand key = .idle) : Steps w hand (w.stepCell key) hand :=
  tracks_steps.stepCell w free

end Turn

/-! ### Runs -/

variable [Behavior β]

/-- A move is a sequence of steps between which nobody is in the middle of a call. -/
theorem steps_act (w : World β) (m : Move β) : Steps w atRest (w.act m) atRest := by
  by_cases h : ∃ key, m = .turn (.cell key)
  · obtain ⟨key, rfl⟩ := h
    exact steps_stepCell w atRest key rfl
  · exact Steps.refl.course (course_act w m fun key hm => h ⟨key, hm⟩)

/-- A run is a sequence of steps. -/
theorem steps_run (w : World β) (moves : List (Move β)) :
    Steps w atRest (w.run moves) atRest := by
  induction moves generalizing w with
  | nil => exact .refl
  | cons m moves ih => exact (steps_act w m).trans (ih _)

end World

end EventMesh
