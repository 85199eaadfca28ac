import EventMesh.Behavior.Actor
import EventMesh.Proofs.Mesh.Ages
import EventMesh.Proofs.Mesh.Start

/-!
# The order of calls

Which calls a behavior gets, and in which order. `Rounds` are the calls by which events are handled:
each event once, with a recovery after a panic and only then. `Protocol` says which calls an
incarnation has got by now, in each phase and at each point of its loop; nothing breaks it
(`Protocol.invariant`). Main statement: every incarnation keeps to the protocol, its loop ends just if
its queue is closed and empty or a recovery failed, and nothing is called once it is over or was
turned away (`calls_in_order`).
-/

namespace EventMesh

/-- Calls by which events are handled one after the other, each panic followed by a recovery. -/
inductive Rounds : List Call → Prop
  | nil : Rounds []
  | handled {calls : List Call} (h : Rounds calls) (e : Event) {outcome : Outcome}
      (returned : ∀ p, outcome ≠ .panicked p) : Rounds (calls ++ [.process e outcome])
  | recovered {calls : List Call} (h : Rounds calls) (e : Event) (p : Panic) :
      Rounds (calls ++ [.process e (.panicked p),
        .recover (.panicked (p.message.getD "unknown panic")) .done])

/-- The calls that an incarnation has got in a phase, with its loop at something. -/
inductive Protocol : Phase → Hand → List Call → Prop
  | starting : Protocol .starting .idle []
  | refused (outcome : Outcome) : Protocol .refused .idle [.init outcome]
  | between {phase : Phase} {rounds : List Call} (going : phase = .running ∨ phase = .draining)
      (h : Rounds rounds) : Protocol phase .idle (.init .done :: rounds)
  | handling {phase : Phase} {rounds : List Call} (going : phase = .running ∨ phase = .draining)
      (h : Rounds rounds) (e : Event) : Protocol phase (.event e) (.init .done :: rounds)
  | recovering {phase : Phase} {rounds : List Call} (going : phase = .running ∨ phase = .draining)
      (h : Rounds rounds) (e : Event) (p : Panic) :
      Protocol phase (.fault (.panicked (p.message.getD "unknown panic")))
        (.init .done :: (rounds ++ [.process e (.panicked p)]))
  /-- The queue is closed and empty; the last call is under way. -/
  | emptied {rounds : List Call} (h : Rounds rounds) : Protocol .ended .last (.init .done :: rounds)
  /-- The recovery failed; the last call is under way. -/
  | gaveUp {rounds : List Call} (h : Rounds rounds) (e : Event) (p : Panic) (err : BehaviorError) :
      Protocol .ended .last (.init .done :: (rounds ++ [.process e (.panicked p),
        .recover (.panicked (p.message.getD "unknown panic")) (.failed err)]))
  | terminated {calls : List Call} (h : Protocol .ended .last calls) (outcome : Outcome) :
      Protocol .ended .idle (calls ++ [.terminate outcome])
  /-- The recovery panicked. -/
  | brokeOff {rounds : List Call} (h : Rounds rounds) (e : Event) (p q : Panic) :
      Protocol .crashed .idle (.init .done :: (rounds ++ [.process e (.panicked p),
        .recover (.panicked (p.message.getD "unknown panic")) (.panicked q)]))

namespace Rounds

variable {calls : List Call}

/-- Every recovery among rounds succeeded. -/
theorem of_mem_recover (h : Rounds calls) {fault : BehaviorError} {outcome : Outcome}
    (hm : Call.recover fault outcome ∈ calls) : outcome = .done := by
  induction h with
  | nil => cases hm
  | handled _ e returned ih =>
    rcases List.mem_append.mp hm with before | last
    · exact ih before
    · cases List.mem_singleton.mp last
  | recovered _ e p ih =>
    rcases List.mem_append.mp hm with before | last
    · exact ih before
    · simp only [List.mem_cons, reduceCtorEq, Call.recover.injEq, List.not_mem_nil, or_false,
        false_or] at last
      exact last.2

theorem not_mem_terminate (h : Rounds calls) (outcome : Outcome) :
    Call.terminate outcome ∉ calls := by
  induction h with
  | nil => nofun
  | handled _ e returned ih => simp [ih]
  | recovered _ e p ih => simp [ih]

end Rounds

namespace Protocol

variable {phase : Phase} {hand : Hand} {calls : List Call}

/-! ### What befalls an incarnation -/

theorem close (h : Protocol .running hand calls) : Protocol .draining hand calls := by
  cases h with
  | between going h => exact .between (Or.inr rfl) h
  | handling going h e => exact .handling (Or.inr rfl) h e
  | recovering going h e p => exact .recovering (Or.inr rfl) h e p

theorem unborn (h : Protocol .starting hand calls) : hand = .idle ∧ calls = [] := by
  cases h with
  | starting => exact ⟨rfl, rfl⟩
  | between going => rcases going with going | going <;> cases going
  | handling going => rcases going with going | going <;> cases going
  | recovering going => rcases going with going | going <;> cases going

theorem take (h : Protocol phase .idle calls) (going : phase = .running ∨ phase = .draining)
    (e : Event) : Protocol phase (.event e) calls := by
  cases h with
  | between _ h => exact .handling going h e
  | starting => rcases going with going | going <;> cases going
  | refused => rcases going with going | going <;> cases going
  | terminated => rcases going with going | going <;> cases going
  | brokeOff => rcases going with going | going <;> cases going

theorem handled {e : Event} (h : Protocol phase (.event e) calls) (outcome : Outcome) :
    Protocol phase (.afterEvent outcome) (calls ++ [.process e outcome]) := by
  cases h with
  | handling going h =>
    cases outcome with
    | done => exact .between going (h.handled e nofun)
    | failed err => exact .between going (h.handled e nofun)
    | panicked p => exact .recovering going h e p

theorem recovered {fault : BehaviorError} (h : Protocol phase (.fault fault) calls) :
    Protocol phase .idle (calls ++ [.recover fault .done]) := by
  cases h with
  | recovering going h e p =>
    rw [List.cons_append, List.append_assoc]
    exact .between going (h.recovered e p)

theorem left {fault : BehaviorError} (h : Protocol phase (.fault fault) calls)
    (err : BehaviorError) : Protocol .ended .last (calls ++ [.recover fault (.failed err)]) := by
  cases h with
  | recovering going h e p =>
    rw [List.cons_append, List.append_assoc]
    exact .gaveUp h e p err

theorem crashed {fault : BehaviorError} (h : Protocol phase (.fault fault) calls) (q : Panic) :
    Protocol .crashed .idle (calls ++ [.recover fault (.panicked q)]) := by
  cases h with
  | recovering going h e p =>
    rw [List.cons_append, List.append_assoc]
    exact .brokeOff h e p q

theorem drained (h : Protocol .draining .idle calls) : Protocol .ended .last calls := by
  cases h with
  | between going h => exact .emptied h

theorem last (h : Protocol phase .last calls) (outcome : Outcome) :
    Protocol phase .idle (calls ++ [.terminate outcome]) := by
  cases h with
  | emptied h => exact .terminated (.emptied h) outcome
  | gaveUp h e p err => exact .terminated (.gaveUp h e p err) outcome

variable {β : Type}

/-- What an incarnation has been called so far is in order. -/
abbrev Kept (hand : Hand) (c : Cell β) : Prop := Protocol c.phase hand c.calls

/-- **Nothing breaks the protocol.** -/
theorem invariant : Cell.Invariant (Kept (β := β)) where
  born _ _ _ _ := .starting
  accept h _ _ := h
  close {hand c} h := by
    unfold Cell.close
    split
    · rename_i hp
      have running : c.phase = .running := by simpa using hp
      have open_queue : Protocol c.phase hand c.calls := h
      rw [running] at open_queue
      exact open_queue.close
    · exact h
  judge {hand c} h hp outcome resident phase judged := by
    have first : Protocol c.phase hand c.calls := h
    rw [hp] at first
    obtain ⟨rfl, none_yet⟩ := first.unborn
    show Protocol phase .idle (c.calls ++ [.init outcome])
    rw [none_yet]
    rcases judged with rfl | ⟨rfl, rfl⟩
    · exact .refused outcome
    · exact .between (Or.inl rfl) .nil
  worked h s := by
    cases s with
    | take hp hq => exact h.take hp _
    | handled c e outcome resident => exact h.handled outcome
    | recovered c fault resident => exact h.recovered
    | brokeOff c fault p resident => exact h.crashed p
    | terminated c outcome resident => exact h.last outcome
  left {hand c c'} h s := by
    cases s with
    | gaveUp c fault err resident => exact h.left err
    | drained hp hq =>
      have closed : Protocol c.phase .idle c.calls := h
      rw [hp] at closed
      exact closed.drained

/-! ### What the protocol says -/

/-- A recovery that failed was the end of the loop. -/
theorem ended_of_failed (h : Protocol phase hand calls) {fault err : BehaviorError}
    (hm : Call.recover fault (.failed err) ∈ calls) : phase = .ended := by
  have none_failed : ∀ {rounds : List Call}, Rounds rounds →
      Call.recover fault (.failed err) ∉ rounds := by
    intro rounds h hm
    cases h.of_mem_recover hm
  cases h with
  | starting => cases hm
  | refused => simp at hm
  | between _ h => simp [none_failed h] at hm
  | handling _ h => simp [none_failed h] at hm
  | recovering _ h => simp [none_failed h] at hm
  | emptied => rfl
  | gaveUp => rfl
  | terminated => rfl
  | brokeOff h => simp [none_failed h] at hm

/-- The last call is the last, and made once. -/
theorem of_mem_terminate (h : Protocol phase hand calls) {outcome : Outcome}
    (hm : Call.terminate outcome ∈ calls) :
    phase = .ended ∧ hand = .idle ∧ ∃ before, calls = before ++ [.terminate outcome] ∧
      ∀ o, Call.terminate o ∉ before := by
  have not_yet : ∀ {calls : List Call}, Protocol .ended .last calls →
      ∀ o, Call.terminate o ∉ calls := by
    intro calls h o
    cases h with
    | emptied h => simp [h.not_mem_terminate]
    | gaveUp h => simp [h.not_mem_terminate]
  cases h with
  | starting => cases hm
  | refused => simp at hm
  | between _ h => simp [h.not_mem_terminate] at hm
  | handling _ h => simp [h.not_mem_terminate] at hm
  | recovering _ h => simp [h.not_mem_terminate] at hm
  | emptied h => exact absurd hm (not_yet (.emptied h) outcome)
  | gaveUp h e p err => exact absurd hm (not_yet (.gaveUp h e p err) outcome)
  | @terminated before h o =>
    rcases List.mem_append.mp hm with early | last
    · exact absurd early (not_yet h outcome)
    · cases List.mem_singleton.mp last
      exact ⟨rfl, rfl, before, rfl, not_yet h⟩
  | brokeOff h => simp [h.not_mem_terminate] at hm

end Protocol

namespace Cell

variable {β : Type} {hand next : Hand} {c c' : Cell β}

/-- An incarnation in its last phase is left alone, unless its last call is under way. -/
theorem Befell.final (h : Befell .idle c next c') (final : c.phase.IsFinal) :
    c' = c ∧ next = .idle := by
  have stuck : ∀ {phase : Phase}, c.phase = phase → phase.IsFinal := fun hp => hp ▸ final
  cases h with
  | spared => exact ⟨rfl, rfl⟩
  | accepted _ hp => simpa [Phase.IsFinal] using stuck hp
  | closed =>
    have not_running : c.phase ≠ .running := fun hp => by simpa [Phase.IsFinal] using stuck hp
    exact ⟨by simp [Cell.close, not_running], rfl⟩
  | turnedAway _ hp => simpa [Phase.IsFinal] using stuck hp
  | letIn _ hp => simpa [Phase.IsFinal] using stuck hp
  | worked h =>
    cases h with
    | take hp => rcases hp with hp | hp <;> simpa [Phase.IsFinal] using stuck hp
  | left h =>
    cases h with
    | drained hp => simpa [Phase.IsFinal] using stuck hp

/-- A loop ends only with its queue closed and empty, or with a recovery that fails. -/
theorem Befell.ended (h : Befell hand c next c') (before : c.phase ≠ .ended)
    (after : c'.phase = .ended) :
    hand = .idle ∧ c.phase = .draining ∧ c.queue = [] ∨
      ∃ fault err, hand = .fault fault ∧ c'.calls = c.calls ++ [.recover fault (.failed err)] := by
  cases h with
  | spared => exact absurd after before
  | accepted => exact absurd after before
  | closed =>
    unfold Cell.close at after
    split at after
    · cases after
    · exact absurd after before
  | turnedAway => cases after
  | letIn => cases after
  | worked h =>
    cases h with
    | take => exact absurd after before
    | handled => exact absurd after before
    | recovered => exact absurd after before
    | brokeOff => cases after
    | terminated => exact absurd after before
  | left h =>
    cases h with
    | gaveUp _ fault err => exact Or.inr ⟨fault, err, rfl, rfl⟩
    | drained hp hq => exact Or.inl ⟨rfl, hp, hq⟩

/-- A failure while an event is handled leaves the loop as it is, at nothing. -/
theorem Befell.failed (h : Befell hand c next c') {e : Event} {err : BehaviorError}
    (failed : c'.calls = c.calls ++ [.process e (.failed err)]) :
    next = .idle ∧ c'.phase = c.phase ∧ c'.queue = c.queue := by
  have grown : c'.calls ≠ c.calls := by
    rw [failed]
    simp
  cases h with
  | spared => exact absurd rfl grown
  | accepted => exact absurd rfl grown
  | closed =>
    unfold Cell.close at grown
    split at grown <;> exact absurd rfl grown
  | turnedAway => simp [Cell.after] at failed
  | letIn => simp [Cell.after] at failed
  | worked h =>
    cases h with
    | take => exact absurd rfl grown
    | handled c e' outcome resident =>
      simp only [Cell.after, List.append_cancel_left_eq, List.cons.injEq, Call.process.injEq,
        and_true] at failed
      rw [failed.2]
      exact ⟨rfl, rfl, rfl⟩
    | recovered => simp [Cell.after] at failed
    | brokeOff => simp [Cell.after] at failed
    | terminated => simp [Cell.after] at failed
  | left h =>
    cases h with
    | gaveUp => simp [Cell.after] at failed
    | drained => exact absurd rfl grown

end Cell

namespace World

open Function Time

variable {β : Type} {w w' : World β} {hand hand' : CellKey → Hand} {key : CellKey} {c c' : Cell β}

/-- An incarnation whose loop is over, or that was turned away, stays as it is. -/
theorem final_steps (h : Steps w hand w' hand') (hc : w.cells.get? key = some c)
    (final : c.phase.IsFinal) (idle : hand key = .idle) :
    w'.cells.get? key = some c ∧ hand' key = .idle := by
  induction h with
  | refl => exact ⟨hc, idle⟩
  | tail _ s ih =>
    obtain ⟨c', hc', befell⟩ := befell_step s ih.1
    rw [ih.2] at befell
    obtain ⟨rfl, still⟩ := befell.final final
    exact ⟨hc', still⟩

/-! ### The end of a loop -/

variable [Behavior β]

/-- The end of a loop, with its last call. -/
theorem get?_finish (hc : w.cells.get? key = some c) (resident : β) :
    ∃ c' outcome, (w.finish key resident).cells.get? key = some c' ∧ c'.phase = .ended ∧
      c'.calls = c.calls ++ [.terminate outcome] := by
  unfold finish
  dsimp only
  have left : ((w.modifyCell key fun c => { c with phase := .ended, queue := [] }).deregister
      key).cells.get? key = some { c with phase := .ended, queue := [] } := by
    rw [deregister_cells, get?_modifyCell, if_pos rfl, hc]
    rfl
  have calling := course_perform (Behavior.terminate resident)
    ((w.modifyCell key fun c => { c with phase := .ended, queue := [] }).deregister key)
  obtain ⟨c₁, hc₁, kept⟩ := calling.kept key _ left
  generalize perform (Behavior.terminate resident) _ = result at hc₁ ⊢
  obtain ⟨resident, outcome, w₁⟩ := result
  dsimp only at hc₁ ⊢
  refine ⟨c₁.after (.terminate outcome) resident, outcome, ?_, ?_, ?_⟩
  · rw [(aside_wake _).cells, get?_modifyCell, if_pos rfl, hc₁]
    rfl
  · rcases kept.phase with hp | ⟨hp, -⟩
    · exact hp
    · cases hp
  · show c₁.calls ++ [.terminate outcome] = c.calls ++ [.terminate outcome]
    rw [kept.calls]

/-- A loop whose queue is closed and empty ends in its next turn. -/
theorem stepCell_drained (hc : w.cells.get? key = some c) (hp : c.phase = .draining)
    (hq : c.queue = []) : ∃ c' outcome, (w.stepCell key).cells.get? key = some c' ∧
      c'.phase = .ended ∧ c'.calls = c.calls ++ [.terminate outcome] := by
  have turn : w.stepCell key = w.finish key c.resident := by
    unfold stepCell
    rw [hc]
    dsimp only
    rw [hp, hq]
  rw [turn]
  exact get?_finish hc c.resident

/-! ### Starts -/

omit [Behavior β] in
/-- An incarnation that was turned away has got its first call, and one that was let in too. -/
theorem Started.calls {mesh : MeshId} {id : CellId} {r : Except MeshError Unit}
    (h : Started w mesh id r w') :
    (∀ err, r = .error err → w' = w ∨ ∃ c outcome, w'.cells.get? w.cells.next = some c ∧
      c.phase = .refused ∧ c.calls = [.init outcome]) ∧
    (r = .ok () → ∃ c, w'.cells.get? w.cells.next = some c ∧ c.phase = .running ∧
      c.calls = [.init .done]) := by
  cases h with
  | declined taken => exact ⟨fun _ _ => Or.inl rfl, nofun⟩
  | @turnedAway w₁ c calling hc nascent outcome resident err =>
    refine ⟨fun _ _ => Or.inr ⟨_, outcome, by rw [get?_put hc, if_pos rfl], rfl, ?_⟩, nofun⟩
    show c.calls ++ [.init outcome] = [.init outcome]
    rw [nascent.calls, List.nil_append]
  | @letIn w₁ c calling hc nascent resident free =>
    refine ⟨nofun, fun _ =>
      ⟨{ c.after (.init .done) resident with phase := .running }, ?_, rfl, ?_⟩⟩
    · rw [get?_register, if_pos rfl, get?_put hc, if_pos rfl]
      rfl
    · show c.calls ++ [.init .done] = [.init .done]
      rw [nascent.calls, List.nil_append]

/-- The calls of all incarnations are in order, and what comes after. -/
structure CallsInOrder (w : World β) (hand : CellKey → Hand) : Prop where
  protocol : ∀ key c, w.cells.get? key = some c → Protocol c.phase (hand key) c.calls
  /-- Only a recovery that panics breaks a loop off. -/
  crashed_iff : ∀ key c, w.cells.get? key = some c →
    (c.phase = .crashed ↔ ∃ fault p, Call.recover fault (.panicked p) ∈ c.calls)
  /-- A loop ends only with its queue closed and empty, or with a recovery that fails. -/
  ends_only : ∀ {w' : World β} {hand' : CellKey → Hand}, Step w hand w' hand' →
    ∀ key c c', w.cells.get? key = some c → w'.cells.get? key = some c' →
      c.phase ≠ .ended → c'.phase = .ended →
        hand key = .idle ∧ c.phase = .draining ∧ c.queue = [] ∨
          ∃ fault err, hand key = .fault fault ∧
            c'.calls = c.calls ++ [.recover fault (.failed err)]
  /-- A recovery that fails ends the loop. -/
  gave_up : ∀ key c fault err, w.cells.get? key = some c →
    Call.recover fault (.failed err) ∈ c.calls → c.phase = .ended
  /-- With the queue closed and empty the incarnation is ready, and its turn ends the loop. -/
  drained : ∀ key c, w.cells.get? key = some c → c.phase = .draining → c.queue = [] →
    .cell key ∈ w.ready ∧ ∃ c' outcome, (w.stepCell key).cells.get? key = some c' ∧
      c'.phase = .ended ∧ c'.calls = c.calls ++ [.terminate outcome]
  /-- A failure while an event is handled changes nothing. -/
  failed : ∀ {w' : World β} {hand' : CellKey → Hand}, Step w hand w' hand' →
    ∀ key c c' e err, w.cells.get? key = some c → w'.cells.get? key = some c' →
      c'.calls = c.calls ++ [.process e (.failed err)] →
        hand' key = .idle ∧ c'.phase = c.phase ∧ c'.queue = c.queue
  /-- The last call is made once a loop has ended, and once only. -/
  terminated : ∀ key c, w.cells.get? key = some c →
    (c.phase = .ended → hand key = .idle → ∃ outcome, Call.terminate outcome ∈ c.calls) ∧
      ∀ outcome, Call.terminate outcome ∈ c.calls → c.phase = .ended ∧
        ∃ before, c.calls = before ++ [.terminate outcome] ∧ ∀ o, Call.terminate o ∉ before
  /-- Nothing is called in a final phase, after the last call or where there is none. -/
  quiet : ∀ {w' : World β} {hand' : CellKey → Hand}, Steps w hand w' hand' →
    ∀ key c, w.cells.get? key = some c → c.phase.IsFinal → hand key = .idle →
      w'.cells.get? key = some c
  /-- A start that fails makes the first call at most, one that succeeds makes it. -/
  starts : ∀ mesh id seed (init : Outlet → Script β),
    (∀ err, (w.startWith mesh id seed fun outlet w => perform (init outlet) w).1 = .error err →
      (w.startWith mesh id seed fun outlet w => perform (init outlet) w).2 = w ∨
        ∃ c outcome, (w.startWith mesh id seed fun outlet w =>
            perform (init outlet) w).2.cells.get? w.cells.next = some c ∧
          c.phase = .refused ∧ c.calls = [.init outcome]) ∧
    ((w.startWith mesh id seed fun outlet w => perform (init outlet) w).1 = .ok () →
      ∃ c, (w.startWith mesh id seed fun outlet w =>
          perform (init outlet) w).2.cells.get? w.cells.next = some c ∧
        c.phase = .running ∧ c.calls = [.init .done])

omit [Behavior β] in
theorem terminated_of_protocol (h : Protocol c.phase (hand key) c.calls) :
    (c.phase = .ended → hand key = .idle → ∃ outcome, Call.terminate outcome ∈ c.calls) ∧
      ∀ outcome, Call.terminate outcome ∈ c.calls → c.phase = .ended ∧
        ∃ before, c.calls = before ++ [.terminate outcome] ∧ ∀ o, Call.terminate o ∉ before := by
  constructor
  · intro ended idle
    rw [ended, idle] at h
    generalize c.calls = calls at h
    cases h with
    | between going => rcases going with going | going <;> cases going
    | terminated _ outcome => exact ⟨outcome, List.mem_append_right _ (List.mem_singleton_self _)⟩
  · intro outcome hm
    obtain ⟨ended, -, before⟩ := h.of_mem_terminate hm
    exact ⟨ended, before⟩

/-- **Behaviors are called in order.** After any steps of any loops and any deeds of anybody (runs
among them: `steps_run`), the calls of every incarnation are its first one, then, if it was let in,
rounds of events handled with a recovery after each panic, then the last one, and nothing follows; its
loop ends just if its queue is closed and empty or a recovery failed, and a failure of the handling of
an event is nothing to the loop. -/
theorem calls_in_order (wall : Wall) (h : Steps (startingAt wall) atRest w hand) :
    w.CallsInOrder hand := by
  have protocol := h.each Protocol.invariant
  have coherent := h.each Cell.Coherent.invariant
  refine ⟨protocol.cells, fun key c hc => (coherent.cells key c hc).crashed, ?_, ?_, ?_, ?_, ?_, ?_,
    ?_⟩
  · intro w' hand' s key c c' hc hc'
    obtain ⟨c'', hc'', befell⟩ := befell_step s hc
    rw [hc'] at hc''
    cases hc''
    exact befell.ended
  · intro key c fault err hc hm
    exact (protocol.cells key c hc).ended_of_failed hm
  · intro key c hc hp hq
    exact ⟨prompt_steps h key c hc (Or.inl hp), stepCell_drained hc hp hq⟩
  · intro w' hand' s key c c' e err hc hc'
    obtain ⟨c'', hc'', befell⟩ := befell_step s hc
    rw [hc'] at hc''
    cases hc''
    exact befell.failed
  · intro key c hc
    exact terminated_of_protocol (protocol.cells key c hc)
  · intro w' hand' later key c hc final idle
    exact (final_steps later hc final idle).1
  · intro mesh id seed init
    exact (started_startWith w mesh id seed fun outlet w => course_perform (init outlet) w).calls

/-- A cell that handled one event with a panic and one with a failure, was stopped and let go. -/
def stoppedActor : World (Resident Actor) :=
  (startingAt ⟨0, 0⟩).run [
    .openMesh "mesh" (.ofMillis 1000),
    .start ⟨0⟩ ⟨"a"⟩ (.custom {
      rules := [⟨some "boom", [.panic ⟨none⟩]⟩, ⟨some "no", [.fail (.executionFailed "no")]⟩] }),
    .emitNew ⟨0⟩ ⟨"a"⟩ "boom" .empty,
    .emitNew ⟨0⟩ ⟨"a"⟩ "no" .empty,
    .stopCell ⟨0⟩ ⟨"a"⟩,
    .turn (.cell ⟨0⟩),
    .turn (.cell ⟨0⟩),
    .turn (.cell ⟨0⟩)]

/-- All of its calls, from the first to the last. -/
theorem calls_in_order_stoppedActor : ∃ c boom no, stoppedActor.cells.get? ⟨0⟩ = some c ∧
    c.calls = [.init .done, .process boom (.panicked ⟨none⟩),
      .recover (.panicked "unknown panic") .done, .process no (.failed (.executionFailed "no")),
      .terminate .done] ∧
    Protocol .ended .idle c.calls := by
  have known : ∃ c boom no, stoppedActor.cells.get? ⟨0⟩ = some c ∧ c.phase = .ended ∧
      c.calls = [.init .done, .process boom (.panicked ⟨none⟩),
        .recover (.panicked "unknown panic") .done, .process no (.failed (.executionFailed "no")),
        .terminate .done] := ⟨_, _, _, rfl, rfl, rfl⟩
  obtain ⟨c, boom, no, hc, ended, calls⟩ := known
  have steps : Steps (startingAt ⟨0, 0⟩) atRest stoppedActor atRest := steps_run _ _
  have kept := (calls_in_order ⟨0, 0⟩ steps).protocol ⟨0⟩ c hc
  rw [ended] at kept
  exact ⟨c, boom, no, hc, calls, kept⟩

end World

end EventMesh
