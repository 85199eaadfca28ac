import EventMesh.Proofs.Behavior.StaleCheck

/-!
# What a call leaves on a bench

On a bench nothing goes anywhere: what a behavior attempts is recorded, and a reminder is called off
or not. So the bench after a call is the one before it with the attempts of the call written down
(`Bench.noting`). Main statements: this holds for every script that keeps to its bench
(`noted_perform`) and for every delivery (`sent_send`); what can still be fired afterwards is what
could be fired before or was scheduled now, less what was called off (`Sent.pendingOf`).
-/

namespace EventMesh

open Time

/-- Whether a script does without meshes and sends events from one bench only. -/
def Script.KeepsTo {β : Type} (bench : BenchId) : Script β → Prop
  | .finish _ _ => True
  | .survey k => ∀ s, (k s).KeepsTo bench
  | .build _ k => ∀ p, (k p).KeepsTo bench
  | .create _ _ _ k => ∀ e, (k e).KeepsTo bench
  | .emit outlet _ k => (∃ id, outlet = .bench bench id) ∧ ∀ r, (k r).KeepsTo bench
  | .emitTo outlet _ _ k => (∃ id, outlet = .bench bench id) ∧ ∀ r, (k r).KeepsTo bench
  | .emitAfter outlet _ _ k => (∃ id, outlet = .bench bench id) ∧ ∀ r, (k r).KeepsTo bench
  | .cancelReminder _ k => k.KeepsTo bench
  | .answer _ _ k => ∀ won, (k won).KeepsTo bench
  | .store _ _ _ k => ∀ r, (k r).KeepsTo bench
  | .start .. => False
  | .stopMesh .. => False

theorem Script.keepsTo_map {α β : Type} {bench : BenchId} {f : α → β} {s : Script α} :
    (s.map f).KeepsTo bench ↔ s.KeepsTo bench := by
  induction s with
  | finish => exact Iff.rfl
  | survey | build | create | emit | emitTo | emitAfter | cancelReminder | answer | store | start
  | stopMesh => simp only [Script.map, Script.KeepsTo, *]

namespace Attempt

variable {ε δ : Type}

/-- The event of an emission. -/
def emitted? : Attempt ε → Option ε
  | .emit _ e => some e
  | _ => none

/-- The target and the event of an event that goes to one cell. -/
def sent? : Attempt ε → Option (CellId × ε)
  | .emitTo _ target e => some (target, e)
  | _ => none

/-- The event that is scheduled. -/
def scheduled? : Attempt Event → Option Scheduled
  | .schedule _ delay e reminder => some ⟨delay, e, reminder⟩
  | _ => none

/-- Whether a reminder is called off. -/
def callsOff (r : ReminderId) : Attempt ε → Bool
  | .cancel reminder => reminder = r
  | _ => false

theorem emitted?_map (f : ε → δ) (a : Attempt ε) : (a.map f).emitted? = a.emitted?.map f := by
  cases a <;> rfl

theorem filterMap_emitted?_map (f : ε → δ) (tried : List (Attempt ε)) :
    (tried.map (·.map f)).filterMap emitted? = (tried.filterMap emitted?).map f := by
  rw [List.filterMap_map, List.map_filterMap]
  exact congrArg (List.filterMap · tried) (funext (emitted?_map f))

/-- What an attempt was if its event is seen in another way. -/
theorem map_eq_schedule {f : ε → δ} {a : Attempt ε} {outlet : Outlet} {delay : Duration} {d : δ}
    {reminder : ReminderId} (h : a.map f = .schedule outlet delay d reminder) :
    ∃ e, a = .schedule outlet delay e reminder ∧ f e = d := by
  cases a <;> cases h
  exact ⟨_, rfl, rfl⟩

theorem map_eq_emit {f : ε → δ} {a : Attempt ε} {outlet : Outlet} {d : δ}
    (h : a.map f = .emit outlet d) : ∃ e, a = .emit outlet e ∧ f e = d := by
  cases a <;> cases h
  exact ⟨_, rfl, rfl⟩

theorem map_eq_cancel {f : ε → δ} {a : Attempt ε} {reminder : ReminderId}
    (h : a.map f = .cancel reminder) : a = .cancel reminder := by
  cases a <;> cases h
  rfl

end Attempt

/-- A bench on which attempts are written down; what it rejects is not. -/
def Bench.noting {β : Type} (b : Bench β) (tried : List (Attempt Event)) : Bench β :=
  { b with
    emitted := b.emitted ++ if b.rejecting then [] else tried.filterMap Attempt.emitted?
    sent := b.sent ++ if b.rejecting then [] else tried.filterMap Attempt.sent?
    scheduled := b.scheduled ++ tried.filterMap Attempt.scheduled? }

theorem Bench.noting_nil {β : Type} (b : Bench β) : b.noting [] = b := by
  simp [Bench.noting]

theorem Bench.noting_append {β : Type} (b : Bench β) (first second : List (Attempt Event)) :
    (b.noting first).noting second = b.noting (first ++ second) := by
  cases h : b.rejecting <;> simp [Bench.noting, h]

section Noting

variable {β : Type} (b : Bench β) (outlet : Outlet)

theorem Bench.noting_emit (e : Event) : b.noting [.emit outlet e] =
    if b.rejecting then b else { b with emitted := b.emitted ++ [e] } := by
  obtain ⟨id, resident, emitted, sent, scheduled, rejecting, records⟩ := b
  cases rejecting
  · show Bench.mk id resident (emitted ++ [e]) (sent ++ []) (scheduled ++ []) false records = _
    simp
  · show Bench.mk id resident (emitted ++ []) (sent ++ []) (scheduled ++ []) true records = _
    simp

theorem Bench.noting_emitTo (target : CellId) (e : Event) : b.noting [.emitTo outlet target e] =
    if b.rejecting then b else { b with sent := b.sent ++ [(target, e)] } := by
  obtain ⟨id, resident, emitted, sent, scheduled, rejecting, records⟩ := b
  cases rejecting
  · show Bench.mk id resident (emitted ++ []) (sent ++ [(target, e)]) (scheduled ++ []) false records = _
    simp
  · show Bench.mk id resident (emitted ++ []) (sent ++ []) (scheduled ++ []) true records = _
    simp

theorem Bench.noting_schedule (delay : Duration) (e : Event) (reminder : ReminderId) :
    b.noting [.schedule outlet delay e reminder] =
      { b with scheduled := b.scheduled ++ [(⟨delay, e, reminder⟩ : Scheduled)] } := by
  have nothing {α : Type} : (if b.rejecting then [] else ([] : List α)) = [] := ite_self _
  show { b with
    emitted := b.emitted ++ if b.rejecting then [] else []
    sent := b.sent ++ if b.rejecting then [] else []
    scheduled := b.scheduled ++ [(⟨delay, e, reminder⟩ : Scheduled)] } = _
  rw [nothing, nothing, List.append_nil, List.append_nil]

/-- Other attempts leave nothing on a bench. -/
theorem Bench.noting_other {a : Attempt Event} (he : a.emitted? = none) (hs : a.sent? = none)
    (hd : a.scheduled? = none) : b.noting [a] = b := by
  have nothing {α : Type} : (if b.rejecting then [] else ([] : List α)) = [] := ite_self _
  simp only [Bench.noting, List.filterMap_cons_none he, List.filterMap_cons_none hs,
    List.filterMap_cons_none hd, List.filterMap_nil, nothing, List.append_nil]

end Noting

namespace World

variable {β : Type}

/-! ### Scripts -/

theorem wake_eq (w : World β) : w.wake = { w with ready := w.wake.ready } := by
  unfold wake
  generalize w.tasks.handlesWhere w.isRipe = ripe
  induction ripe generalizing w with
  | nil => rfl
  | cons t ripe ih => rw [List.foldl_cons, ih, enlist_eq]

theorem isCancelled_lt {w : World β} {r : ReminderId} (h : w.isCancelled r = true) :
    r.index < w.reminders.size := by
  obtain ⟨reminder, found, -⟩ := (Option.any_eq_true ..).mp h
  exact Table.index_lt_of_get? found

/-- Reminders are made and called off as attempts say. -/
structure Reminded (w w' : World β) (tried : List (Attempt Event)) : Prop where
  grows : w.reminders.size ≤ w'.reminders.size
  /-- What is scheduled has a reminder. -/
  known : ∀ c ∈ tried.filterMap Attempt.scheduled?, c.reminder.index < w'.reminders.size
  cancelled : ∀ {r : ReminderId}, r.index < w.reminders.size →
    w'.isCancelled r = (w.isCancelled r || tried.any (·.callsOff r))
  fresh : ∀ {r : ReminderId}, w.reminders.size ≤ r.index → w'.isCancelled r = true →
    tried.any (·.callsOff r) = true

namespace Reminded

variable {w w₁ w₂ : World β} {first second : List (Attempt Event)} {a : Attempt Event}

theorem of_eq (h : w₁.reminders = w.reminders) : Reminded w w₁ [] := by
  have same (r : ReminderId) : w₁.isCancelled r = w.isCancelled r := by
    rw [isCancelled, h, isCancelled]
  refine ⟨Nat.le_of_eq (by rw [h]), nofun, ?_, ?_⟩
  · intro r _
    rw [same, List.any_nil, Bool.or_false]
  · intro r new cancelled
    have known := isCancelled_lt ((same r).symm.trans cancelled)
    omega

theorem trans (h : Reminded w w₁ first) (h' : Reminded w₁ w₂ second) :
    Reminded w w₂ (first ++ second) := by
  refine ⟨Nat.le_trans h.grows h'.grows, ?_, ?_, ?_⟩
  · intro c hc
    rw [List.filterMap_append, List.mem_append] at hc
    rcases hc with hc | hc
    · exact Nat.lt_of_lt_of_le (h.known c hc) h'.grows
    · exact h'.known c hc
  · intro r known
    rw [h'.cancelled (Nat.lt_of_lt_of_le known h.grows), h.cancelled known, List.any_append,
      Bool.or_assoc]
  · intro r new cancelled
    rw [List.any_append, Bool.or_eq_true]
    rcases Nat.lt_or_ge r.index w₁.reminders.size with known | new₁
    · rw [h'.cancelled known, Bool.or_eq_true] at cancelled
      exact cancelled.imp_left (h.fresh new)
    · exact Or.inr (h'.fresh new₁ cancelled)

/-- A change of other things may follow. -/
theorem followed (h : Reminded w w₁ first) (same : w₂.reminders = w₁.reminders) :
    Reminded w w₂ first := by
  have both := h.trans (of_eq same)
  rwa [List.append_nil] at both

/-- An attempt that schedules nothing, calls nothing off and leaves the reminders as they are. -/
theorem of_attempt (unscheduled : a.scheduled? = none) (quiet : ∀ r, a.callsOff r = false)
    (same : w₁.reminders = w.reminders) : Reminded w w₁ [a] := by
  have still : Reminded w w₁ [] := of_eq same
  refine ⟨still.grows, ?_, ?_, ?_⟩
  · rw [List.filterMap_cons_none unscheduled]
    nofun
  · intro r known
    rw [List.any_cons, quiet, Bool.false_or]
    exact still.cancelled known
  · intro r new cancelled
    cases still.fresh new cancelled

theorem schedule (outlet : Outlet) (delay : Duration) (e : Event)
    (added : w₁.reminders = w.reminders.add {}) :
    Reminded w w₁ [.schedule outlet delay e w.reminders.next] := by
  have size : w₁.reminders.size = w.reminders.size + 1 := by
    rw [added, Table.size_add]
  have off (r : ReminderId) : w₁.isCancelled r =
      if r = w.reminders.next then false else w.isCancelled r := by
    rw [isCancelled, added, Table.get?_add]
    split <;> rfl
  refine ⟨by omega, ?_, ?_, ?_⟩
  · intro c hc
    obtain rfl := List.mem_singleton.mp hc
    rw [size]
    exact Nat.lt_succ_self _
  · intro r known
    have old : r ≠ w.reminders.next := by
      rintro rfl
      exact Nat.lt_irrefl _ known
    rw [off, if_neg old]
    exact (Bool.or_false _).symm
  · intro r new cancelled
    rw [off] at cancelled
    split at cancelled
    · cases cancelled
    · have known := isCancelled_lt cancelled
      omega

theorem cancel {r : ReminderId} (called : w₁.reminders =
    w.reminders.modify r fun _ => { cancelled := true, task := none }) :
    Reminded w w₁ [.cancel r] := by
  have off (j : ReminderId) : w₁.isCancelled j =
      if r = j then (w.reminders.get? j).isSome else w.isCancelled j := by
    rw [isCancelled, called, Table.get?_modify]
    split
    · cases w.reminders.get? j <;> rfl
    · rfl
  refine ⟨Nat.le_of_eq (by rw [called, Table.size_modify]), nofun, ?_, ?_⟩
  · intro j known
    obtain ⟨reminder, found⟩ := Table.exists_get? known
    rw [off]
    by_cases same : r = j
    · simp [same, found, Attempt.callsOff]
    · simp [same, Attempt.callsOff]
  · intro j new cancelled
    rw [off] at cancelled
    by_cases same : r = j
    · simp [same, Attempt.callsOff]
    · rw [if_neg same] at cancelled
      have known := isCancelled_lt cancelled
      omega

end Reminded

/-- The attempts of a call are written down on a bench. -/
structure Noted (bench : BenchId) (w w' : World β) (tried : List (Attempt Event)) : Prop
    extends Reminded w w' tried where
  clock : w'.clock = w.clock
  bench : ∀ {b}, w.benches.get? bench = some b → w'.benches.get? bench = some (b.noting tried)

namespace Noted

variable {bench : BenchId} {w w₁ w₂ : World β} {tried first second : List (Attempt Event)}

theorem of_eq (hc : w₁.clock = w.clock) (hb : w₁.benches = w.benches)
    (hr : w₁.reminders = w.reminders) : Noted bench w w₁ [] := by
  refine ⟨.of_eq hr, hc, fun {b} found => ?_⟩
  rw [hb, found, Bench.noting_nil]

theorem refl (w : World β) : Noted bench w w [] := of_eq rfl rfl rfl

theorem trans (h : Noted bench w w₁ first) (h' : Noted bench w₁ w₂ second) :
    Noted bench w w₂ (first ++ second) := by
  refine ⟨h.toReminded.trans h'.toReminded, h'.clock.trans h.clock, fun {b} found => ?_⟩
  rw [h'.bench (h.bench found), Bench.noting_append]

theorem cons {a : Attempt Event} (h : Noted bench w w₁ [a]) (h' : Noted bench w₁ w₂ tried) :
    Noted bench w w₂ (a :: tried) :=
  h.trans h'

/-- A change of other things may go ahead. -/
theorem after (h : Noted bench w₁ w₂ tried) (hc : w₁.clock = w.clock)
    (hb : w₁.benches = w.benches) (hr : w₁.reminders = w.reminders) : Noted bench w w₂ tried :=
  (of_eq hc hb hr).trans h

theorem record (w : World β) (bench : BenchId) {f : Bench β → Bench β} {a : Attempt Event}
    (unscheduled : a.scheduled? = none) (quiet : ∀ r, a.callsOff r = false)
    (noted : ∀ b : Bench β, b.noting [a] = if b.rejecting then b else f b) :
    Noted bench w (w.record bench f).2 [a] := by
  unfold World.record
  split
  · rename_i rejecting
    refine ⟨.of_attempt unscheduled quiet rfl, rfl, fun {b} found => ?_⟩
    have rejects : b.rejecting = true := by rwa [found] at rejecting
    rw [noted, if_pos rejects, found]
  · rename_i accepting
    refine ⟨.of_attempt unscheduled quiet rfl, rfl, fun {b} found => ?_⟩
    have accepts : ¬ b.rejecting = true := by rwa [found] at accepting
    refine (get?_modifyBench w bench bench f).trans ?_
    rw [if_pos rfl, found, noted, if_neg accepts]
    rfl

theorem emitAfter (w : World β) (bench : BenchId) (id : CellId) (delay : Duration) (e : Event) :
    Noted bench w (w.emitAfter (.bench bench id) delay e).2
      [.schedule (.bench bench id) delay e w.reminders.next] := by
  refine ⟨.schedule _ delay e rfl, rfl, fun {b} found => ?_⟩
  rw [get?_emitAfter, found, Bench.noting_schedule]
  rfl

theorem cancelReminder (w : World β) (bench : BenchId) (r : ReminderId) :
    Noted bench w (w.cancelReminder r) [.cancel r] := by
  refine ⟨.cancel (by rw [cancelReminder_eq]), cancelReminder_clock w r, fun {b} found => ?_⟩
  rw [cancelReminder_eq, Bench.noting_other b rfl rfl rfl]
  exact found

theorem answer (w : World β) (bench : BenchId) (waiter : WaiterId) (p : Payload) :
    Noted bench w (w.answer waiter p).2 [.answer waiter p] := by
  rw [World.answer, wake_eq]
  refine ⟨.of_attempt rfl (fun _ => rfl) rfl, rfl, fun {b} found => ?_⟩
  rw [Bench.noting_other b rfl rfl rfl]
  exact found

theorem store (w : World β) (bench : BenchId) (scene : SceneId) (key : String) (p : Payload) :
    Noted bench w (w.store scene key p).2 [.store scene key p] := by
  have beside : ∀ w' : World β, w'.clock = w.clock → w'.reminders = w.reminders →
      w'.benches = w.benches → Noted bench w w' [.store scene key p] := by
    intro w' hc hr hb
    refine ⟨.of_attempt rfl (fun _ => rfl) hr, hc, fun {b} found => ?_⟩
    rw [hb, found, Bench.noting_other b rfl rfl rfl]
  unfold World.store
  split
  · exact beside w rfl rfl rfl
  · dsimp only
    split
    · exact beside w rfl rfl rfl
    · refine beside _ ?_ ?_ ?_ <;> rw [raise, wake_eq] <;> rfl

end Noted

/-- **A script that keeps to its bench leaves its attempts there.** -/
theorem noted_perform {bench : BenchId} {s : Script β} (h : s.KeepsTo bench) (w : World β) :
    Noted bench w (perform s w).2.2 (attempts s w) := by
  induction s generalizing w with
  | finish next outcome => exact .refl w
  | survey k ih => exact ih _ (h _) w
  | build values k ih => exact (ih _ (h _) _).after rfl rfl rfl
  | create topic values scene k ih => exact (ih _ (h _) _).after rfl rfl rfl
  | emit outlet e k ih =>
    obtain ⟨⟨id, rfl⟩, keeps⟩ := h
    have recorded := Noted.record w bench (a := .emit (.bench bench id) e) rfl (fun _ => rfl)
      fun b => b.noting_emit _ e
    exact recorded.cons (ih _ (keeps _) _)
  | emitTo outlet target e k ih =>
    obtain ⟨⟨id, rfl⟩, keeps⟩ := h
    have recorded := Noted.record w bench (a := .emitTo (.bench bench id) target e) rfl (fun _ => rfl)
      fun b => b.noting_emitTo _ target e
    exact recorded.cons (ih _ (keeps _) _)
  | emitAfter outlet delay e k ih =>
    obtain ⟨⟨id, rfl⟩, keeps⟩ := h
    exact (Noted.emitAfter w bench id delay e).cons (ih _ (keeps _) _)
  | cancelReminder reminder k ih => exact (Noted.cancelReminder w bench reminder).cons (ih h _)
  | answer waiter reply k ih => exact (Noted.answer w bench waiter reply).cons (ih _ (h _) _)
  | store scene key payload k ih => exact (Noted.store w bench scene key payload).cons (ih _ (h _) _)
  | start mesh id seed init k ihInit ih => exact h.elim
  | stopMesh mesh k ih => exact h.elim

/-! ### Deliveries -/

/-- What a delivery leaves on a bench: the attempts of the call, with what becomes of the behavior. -/
structure Sent (bench : BenchId) (w w' : World β) (b b' : Bench β) (tried : List (Attempt Event))
    (next : β) : Prop extends Reminded w w' tried where
  clock : w'.clock = w.clock
  found : w'.benches.get? bench = some b'
  resident : b'.resident = next
  rejecting : b'.rejecting = b.rejecting
  emitted : b'.emitted = b.emitted ++ if b.rejecting then [] else tried.filterMap Attempt.emitted?
  scheduled : b'.scheduled = b.scheduled ++ tried.filterMap Attempt.scheduled?

section Delivery

variable [Behavior β] {bench : BenchId} {w w' : World β} {b b' : Bench β} {e : Event}

/-- **A delivery leaves on the bench what the call attempts.** -/
theorem sent_send (found : w.benches.get? bench = some b)
    (keeps : (Behavior.process b.resident e).KeepsTo bench) :
    ∃ b', Sent bench w (w.send bench e).2 b b' (w.handling b.resident e).2
      (w.handling b.resident e).1 := by
  have written := noted_perform keeps w
  have called : w.call bench (fun b => Behavior.process b.resident e) =
      ((perform (Behavior.process b.resident e) w).2.1,
        (perform (Behavior.process b.resident e) w).2.2.modifyBench bench fun b' =>
          { b' with resident := (w.handling b.resident e).1 }) := by
    rw [World.call, found]
    rfl
  -- A record of the delivery is all that may be added to the bench after the call.
  have noted : ∀ w₁ : World β, ∀ b' : Bench β,
      w₁.clock = (perform (Behavior.process b.resident e) w).2.2.clock →
      w₁.reminders = (perform (Behavior.process b.resident e) w).2.2.reminders →
      w₁.benches.get? bench = some b' →
      (∃ records, b' = { b.noting (w.handling b.resident e).2 with
        resident := (w.handling b.resident e).1, records }) →
      Sent bench w w₁ b b' (w.handling b.resident e).2 (w.handling b.resident e).1 := by
    rintro w₁ _ clock reminders at_ ⟨records, rfl⟩
    exact ⟨written.toReminded.followed reminders, clock.trans written.clock, at_, rfl, rfl, rfl, rfl⟩
  have placed : ((perform (Behavior.process b.resident e) w).2.2.modifyBench bench fun b' =>
      { b' with resident := (w.handling b.resident e).1 }).benches.get? bench =
        some { b.noting (w.handling b.resident e).2 with
          resident := (w.handling b.resident e).1 } := by
    rw [get?_modifyBench, if_pos rfl, written.bench found]
    rfl
  unfold World.send
  rw [called]
  dsimp only
  split
  · exact ⟨_, noted _ _ rfl rfl placed ⟨_, rfl⟩⟩
  · rename_i r _
    let recorded : Bench β := { b.noting (w.handling b.resident e).2 with
      resident := (w.handling b.resident e).1, records := b.records ++ [(e.topic, r)] }
    refine ⟨recorded, noted _ recorded rfl rfl ?_ ⟨_, rfl⟩⟩
    rw [get?_modifyBench, if_pos rfl, placed]
    rfl

omit [Behavior β] in
/-- What can be fired after a delivery: what could be fired before and was not called off, and what
was scheduled. -/
theorem Sent.pendingOf {tried : List (Attempt Event)} {next : β}
    (h : Sent bench w w' b b' tried next)
    (known : ∀ c ∈ b.scheduled, c.reminder.index < w.reminders.size)
    (lasting : ∀ c ∈ tried.filterMap Attempt.scheduled?, w'.isCancelled c.reminder = false) :
    w'.pendingOf b' = (w.pendingOf b).filter (fun c => !tried.any (·.callsOff c.reminder)) ++
      tried.filterMap Attempt.scheduled? := by
  have older : b.scheduled.filter (!w'.isCancelled ·.reminder) =
      (w.pendingOf b).filter fun c => !tried.any (·.callsOff c.reminder) := by
    rw [World.pendingOf, List.filter_filter]
    refine List.filter_congr fun c hc => ?_
    rw [h.cancelled (known c hc), Bool.not_or, Bool.and_comm]
  have newer : (tried.filterMap Attempt.scheduled?).filter (!w'.isCancelled ·.reminder) =
      tried.filterMap Attempt.scheduled? := by
    refine List.filter_eq_self.mpr fun c hc => ?_
    rw [lasting c hc]
    rfl
  rw [World.pendingOf, h.scheduled, List.filter_append, older, newer]

end Delivery

end World

end EventMesh
