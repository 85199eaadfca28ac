import EventMesh.Proofs.Behavior.Schedule
import Mathlib.Data.List.Forall2
import Mathlib.Data.List.Nodup

/-!
# Replaying reminders on a bench

A bench lists the events that are scheduled and fires them on demand. The list is consumed from the middle
while behaviors schedule and call off, so what it should be is kept apart from it, in a `Ledger`: all
events that were ever scheduled, which of them were fired, and what was delivered. The ledger says what is
due (`Ledger.due?`) without looking at the list. Main statement: after whatever moves, the bench lists what
was scheduled and not fired, fires what is due, and has one record for each delivery (`replay_faithful`).
-/

namespace EventMesh

/-- What is done with a behavior on a bench. -/
inductive ReplayMove where
  | init
  | recover (fault : BehaviorError)
  | terminate
  /-- Delivers the event of a reminder that was captured at any time. -/
  | stale (s : Scheduled)
  | trial (m : TrialMove)

/-- The history of a bench. -/
structure Ledger where
  /-- All events that were scheduled, in order. -/
  made : List Scheduled := []
  /-- The reminders whose events were fired, in order. -/
  fired : List ReminderId := []
  /-- The topics of the events delivered since the records were cleared, and how the calls ended. -/
  delivered : List (String × Outcome) := []

namespace Ledger

/-- The events that were scheduled and not fired. -/
def left (L : Ledger) : List Scheduled := L.made.filter (·.reminder ∉ L.fired)

/-- The records of the calls that returned. -/
def records (L : Ledger) : List (String × Except BehaviorError Unit) :=
  L.delivered.filterMap fun d => (World.returned? d.2).map (d.1, ·)

/-- The ledger after a reminder was fired. -/
def strike (L : Ledger) (r : ReminderId) : Ledger := { L with fired := L.fired ++ [r] }

end Ledger

namespace World

variable {β : Type}

/-- What a call schedules on a bench. -/
def scheduledBy (w : World β) (bench : BenchId) (script : Bench β → Script β) : List Scheduled :=
  match w.benches.get? bench with
  | none => []
  | some b => scheduledIn bench (script b) w

/-- The records on a bench. -/
def recordsOn (w : World β) (bench : BenchId) : List (String × Except BehaviorError Unit) :=
  ((w.benches.get? bench).map (·.records)).getD []

/-- The world with another list on a bench. -/
def relist (w : World β) (bench : BenchId) (scheduled : List Scheduled) : World β :=
  w.modifyBench bench fun b => { b with scheduled }

/-- What is due: the oldest event that was neither fired nor called off. -/
def due? (w : World β) (L : Ledger) : Option Scheduled :=
  L.made.find? fun s => s.reminder ∉ L.fired ∧ w.isCancelled s.reminder = false

section Moves

variable [Behavior β]

/-- The world after a move. -/
def play (bench : BenchId) (w : World β) : ReplayMove → World β
  | .init => (w.callInit bench).2
  | .recover fault => (w.callRecover bench fault).2
  | .terminate => (w.callTerminate bench).2
  | .stale s => (w.send bench s.event).2
  | .trial m => w.tryOut bench m

/-- The ledger after a call. -/
def noteCall (w : World β) (bench : BenchId) (L : Ledger) (script : Bench β → Script β) : Ledger :=
  { L with made := L.made ++ w.scheduledBy bench script }

/-- The ledger after a delivery. -/
def noteSend (w : World β) (bench : BenchId) (L : Ledger) (e : Event) : Ledger :=
  { w.noteCall bench L (fun b => Behavior.process b.resident e) with
    delivered := L.delivered ++ [(e.topic, (w.send bench e).1)] }

/-- The ledger after a move. -/
def note (bench : BenchId) (w : World β) (L : Ledger) : ReplayMove → Ledger
  | .init => w.noteCall bench L fun b => Behavior.init b.resident (.bench bench b.id)
  | .recover fault => w.noteCall bench L fun b => Behavior.recover b.resident fault
  | .terminate => w.noteCall bench L fun b => Behavior.terminate b.resident
  | .stale s => w.noteSend bench L s.event
  | .trial (.send e) => w.noteSend bench L e
  | .trial (.sendNew topic values scene) =>
    let (e, w) := w.make (Event.make topic values scene w.clock.wall)
    w.noteSend bench L e
  | .trial .fireNext =>
    match w.due? L with
    | none => L
    | some s =>
      let L := L.strike s.reminder
      (w.relist bench L.left).noteSend bench L s.event
  | .trial (.fireStale n) =>
    match L.left[n]? with
    | none => L
    | some s => w.noteSend bench L s.event
  | .trial .clearRecords => { L with delivered := [] }
  | .trial (.setClock _) | .trial (.reject _) | .trial (.cancel _) | .trial .takeEmitted => L

/-- A ledger and a world after moves. -/
def replay (bench : BenchId) (L : Ledger) (w : World β) : List ReplayMove → Ledger × World β
  | [] => (L, w)
  | m :: moves => replay bench (w.note bench L m) (w.play bench m) moves

/-- What a bench does, by its ledger. -/
structure TrueToLedger (bench : BenchId) (L : Ledger) (w : World β) : Prop where
  /-- The list is what was scheduled and not fired, in the order of the scheduling. -/
  listed : w.scheduledOn bench = L.made.filter (·.reminder ∉ L.fired)
  /-- No two events share a reminder. -/
  apart : (L.made.map (·.reminder)).Nodup
  /-- No reminder was fired twice. -/
  once : L.fired.Nodup
  /-- What was fired had been scheduled. -/
  fired_made : ∀ r ∈ L.fired, r ∈ L.made.map (·.reminder)
  fires_none_iff : (w.fireNext bench).1 = none ↔
    ∀ s ∈ L.made, s.reminder ∈ L.fired ∨ w.isCancelled s.reminder = true
  fires_nothing : (w.fireNext bench).1 = none → (w.fireNext bench).2 = w
  /-- The oldest event that was neither fired nor called off is delivered. It is off the list before, so
  whatever the behavior returns, and what is scheduled meanwhile comes after all others. -/
  fires : ∀ before s after, L.made = before ++ s :: after →
    (∀ p ∈ before, p.reminder ∈ L.fired ∨ w.isCancelled p.reminder = true) →
    s.reminder ∉ L.fired → w.isCancelled s.reminder = false →
    let others := L.made.filter (·.reminder ∉ L.fired ++ [s.reminder])
    let w₁ := w.relist bench others
    w.fireNext bench = (some (w₁.send bench s.event).1, (w₁.send bench s.event).2) ∧
      (w₁.send bench s.event).2.scheduledOn bench =
        others ++ w₁.scheduledBy bench fun b => Behavior.process b.resident s.event
  /-- Every other delivery leaves what is listed, and what it schedules comes after. -/
  sends : ∀ e, (w.send bench e).2.scheduledOn bench =
    w.scheduledOn bench ++ w.scheduledBy bench fun b => Behavior.process b.resident e
  fires_stale : ∀ n s, (w.scheduledOn bench)[n]? = some s →
    w.fireStale bench n = (some (w.send bench s.event).1, (w.send bench s.event).2)
  /-- Without panics there is one record for each delivery. -/
  recorded : (∀ d ∈ L.delivered, ∀ p, d.2 ≠ .panicked p) →
    List.Forall₂ (fun record d => record.1 = d.1 ∧ returned? d.2 = some record.2)
      (w.recordsOn bench) L.delivered

/-- What is true of a bench later on: nothing is scheduled ahead of what was, what was called off stays so,
and nothing that was called off is fired any more. -/
structure Onward (L : Ledger) (w : World β) (L' : Ledger) (w' : World β) : Prop where
  made : ∃ new, L'.made = L.made ++ new
  cancelled : ∀ r, w.isCancelled r = true → w'.isCancelled r = true
  fired : ∃ more, L'.fired = L.fired ++ more ∧ ∀ r ∈ more, w.isCancelled r = false

end Moves

/-! ### The ledger fits the bench -/

/-- The bench is as the ledger says. -/
structure Fits (bench : BenchId) (L : Ledger) (w : World β) : Prop where
  bench : ∃ b, w.benches.get? bench = some b ∧ b.scheduled = L.left ∧ b.records = L.records
  minted : Minted 0 w.reminders.size L.made
  once : L.fired.Nodup
  fired_made : ∀ r ∈ L.fired, r ∈ L.made.map (·.reminder)

theorem left_strike (L : Ledger) (r : ReminderId) :
    (L.strike r).left = L.left.filter (·.reminder ≠ r) := by
  simp only [Ledger.left, Ledger.strike, List.filter_filter]
  apply List.filter_congr
  intro s _
  simp [and_comm]

namespace Fits

variable {bench : BenchId} {L : Ledger} {w w' : World β} {new : List Scheduled}

theorem scheduledOn (h : Fits bench L w) : w.scheduledOn bench = L.left := by
  obtain ⟨b, found, scheduled, -⟩ := h.bench
  rw [World.scheduledOn, found, Option.map_some, Option.getD_some, scheduled]

theorem recordsOn (h : Fits bench L w) : w.recordsOn bench = L.records := by
  obtain ⟨b, found, -, records⟩ := h.bench
  rw [World.recordsOn, found, Option.map_some, Option.getD_some, records]

/-- What is scheduled anew was not fired. -/
theorem left_append (h : Fits bench L w) {size : Nat} (minted : Minted w.reminders.size size new) :
    (L.made ++ new).filter (·.reminder ∉ L.fired) = L.left ++ new := by
  have unfired : ∀ s ∈ new, s.reminder ∉ L.fired := by
    intro s hs fired
    obtain ⟨t, ht, same⟩ := List.mem_map.mp (h.fired_made _ fired)
    have old := h.minted.known t ht
    have young := minted.later s hs
    rw [same] at old
    omega
  rw [List.filter_append, Ledger.left]
  congr 1
  rw [List.filter_eq_self]
  intro s hs
  simpa using unfired s hs

theorem drafts (h : Fits bench L w) (drafts : Drafts bench w w' new) :
    Fits bench { L with made := L.made ++ new } w' := by
  obtain ⟨b, found, scheduled, records⟩ := h.bench
  obtain ⟨b', found', scheduled', records'⟩ := drafts.bench found
  refine ⟨⟨b', found', ?_, records'.trans records⟩, h.minted.append drafts.minted, h.once, ?_⟩
  · rw [scheduled', scheduled]
    exact (h.left_append drafts.minted).symm
  · intro r fired
    rw [List.map_append]
    exact List.mem_append_left _ (h.fired_made r fired)

/-- What schedules nothing leaves the ledger as it is. -/
theorem same (h : Fits bench L w) (drafts : Drafts bench w w' []) : Fits bench L w' := by
  have next := h.drafts drafts
  rwa [List.append_nil] at next

end Fits

theorem drafts_call (w : World β) (bench : BenchId) (script : Bench β → Script β) :
    Drafts bench w (w.call bench script).2 (w.scheduledBy bench script) := by
  unfold call scheduledBy
  cases w.benches.get? bench with
  | none => exact .elsewhere ⟨rfl, rfl⟩
  | some b =>
    have performed := drafts_perform bench (script b) w
    dsimp only
    generalize perform (script b) w = called at performed ⊢
    obtain ⟨resident, outcome, w'⟩ := called
    have noted : Drafts bench w' (w'.modifyBench bench fun b => { b with resident }) [] :=
      .modifyBench w' bench (fun _ => rfl) fun _ => rfl
    have both := performed.trans noted
    rwa [List.append_nil] at both

section Moves

variable [Behavior β] {bench : BenchId} {L : Ledger} {w w' : World β}

omit [Behavior β] in
theorem Fits.call (h : Fits bench L w) (script : Bench β → Script β) :
    Fits bench (w.noteCall bench L script) (w.call bench script).2 :=
  h.drafts (drafts_call w bench script)

/-- **A delivery fits the ledger**: the call schedules what it asks for, and if it returned there is one
more record. -/
theorem Fits.send (h : Fits bench L w) (e : Event) :
    Fits bench (w.noteSend bench L e) (w.send bench e).2 := by
  have called := h.call fun b => Behavior.process b.resident e
  have outcome : (w.send bench e).1 = (w.call bench fun b => Behavior.process b.resident e).1 := rfl
  obtain ⟨b, found, scheduled, records⟩ := called.bench
  unfold noteSend
  rw [outcome]
  unfold World.send
  generalize w.call bench (fun b => Behavior.process b.resident e) = call at called found ⊢
  obtain ⟨outcome, w'⟩ := call
  dsimp only
  refine ⟨?_, ?_, called.once, called.fired_made⟩
  · cases returned : returned? outcome with
    | none =>
      refine ⟨b, found, scheduled, ?_⟩
      simp [records, Ledger.records, returned, noteCall]
    | some r =>
      refine ⟨{ b with records := b.records ++ [(e.topic, r)] }, ?_, scheduled, ?_⟩
      · rw [get?_modifyBench, if_pos rfl, found]
        rfl
      · simp [records, Ledger.records, returned, noteCall]
  · cases returned? outcome <;> exact called.minted

/-! ### Firing -/

omit [Behavior β] in
/-- What is due is the first event on the list that was not called off. -/
theorem find?_left (L : Ledger) : L.left.find? (!w.isCancelled ·.reminder) = w.due? L := by
  rw [Ledger.left, List.find?_filter, due?]
  congr 1
  funext s
  cases w.isCancelled s.reminder <;> simp

omit [Behavior β] in
/-- What is due was neither fired nor called off. -/
theorem of_due?_eq_some {s : Scheduled} (due : w.due? L = some s) :
    s.reminder ∉ L.fired ∧ w.isCancelled s.reminder = false := by
  have chosen := List.find?_some due
  simpa only [decide_eq_true_eq] using chosen

/-- If nothing is due, nothing happens. -/
theorem Fits.fireNext_of_due?_eq_none (h : Fits bench L w) (due : w.due? L = none) :
    w.fireNext bench = (none, w) := by
  obtain ⟨b, found, scheduled, -⟩ := h.bench
  have nothing : b.scheduled.findIdx? (!w.isCancelled ·.reminder) = none := by
    rw [scheduled, List.findIdx?_eq_none_iff]
    rw [← find?_left, List.find?_eq_none] at due
    intro s hs
    simpa using due s hs
  simp [fireNext, found, nothing]

omit [Behavior β] in
/-- The list without the event that is due is the one after it was fired: no other event has its
reminder. -/
theorem Fits.left_strike_of_append (h : Fits bench L w) {before after : List Scheduled} {s : Scheduled}
    (eq : L.left = before ++ s :: after) : (L.strike s.reminder).left = before ++ after := by
  have distinct : (L.left.map (·.reminder)).Nodup :=
    h.minted.nodup.sublist (List.filter_sublist.map _)
  rw [eq, List.map_append, List.map_cons, List.nodup_middle, List.nodup_cons] at distinct
  have other : ∀ p ∈ before ++ after, p.reminder ≠ s.reminder := by
    intro p hp same
    apply distinct.1
    rw [← same, ← List.map_append]
    exact List.mem_map_of_mem hp
  rw [left_strike, eq, List.filter_append, List.filter_cons_of_neg (by simp), ← List.filter_append,
    List.filter_eq_self]
  intro p hp
  simpa using other p hp

/-- What is due is taken off the list and delivered. -/
theorem Fits.fireNext_of_due?_eq_some (h : Fits bench L w) {s : Scheduled} (due : w.due? L = some s) :
    let sent := (w.relist bench (L.strike s.reminder).left).send bench s.event
    w.fireNext bench = (some sent.1, sent.2) := by
  obtain ⟨b, found, scheduled, -⟩ := h.bench
  rw [← find?_left, List.find?_eq_some_iff_append] at due
  obtain ⟨open_, before, after, eq, earlier⟩ := due
  have place : b.scheduled.findIdx? (!w.isCancelled ·.reminder) = some before.length := by
    have none_before : before.findIdx? (!w.isCancelled ·.reminder) = none := by
      rw [List.findIdx?_eq_none_iff]
      intro p hp
      simpa using earlier p hp
    rw [scheduled, eq, List.findIdx?_append, none_before, List.findIdx?_cons, if_pos open_]
    simp
  have there : b.scheduled[before.length]? = some s := by
    rw [scheduled, eq]
    simp
  have taken : (w.modifyBench bench fun b =>
      { b with scheduled := b.scheduled.eraseIdx before.length }) =
        w.relist bench (L.strike s.reminder).left := by
    unfold relist modifyBench
    congr 1
    apply Table.modify_congr found
    have rest : b.scheduled.eraseIdx before.length = (L.strike s.reminder).left := by
      rw [scheduled, h.left_strike_of_append eq, eq, List.eraseIdx_append_of_length_le (Nat.le_refl _)]
      simp
    rw [rest]
  unfold fireNext
  simp only [found, Option.bind_some, place, there, Option.map_some, taken]

omit [Behavior β] in
/-- The bench with the event taken off fits the ledger in which it was fired. -/
theorem Fits.relist (h : Fits bench L w) {s : Scheduled} (due : w.due? L = some s) :
    Fits bench (L.strike s.reminder) (w.relist bench (L.strike s.reminder).left) := by
  obtain ⟨b, found, -, records⟩ := h.bench
  have hs := List.mem_of_find?_eq_some due
  obtain ⟨unfired, -⟩ := of_due?_eq_some due
  constructor
  · refine ⟨{ b with scheduled := (L.strike s.reminder).left }, ?_, rfl, records⟩
    rw [World.relist, get?_modifyBench, if_pos rfl, found]
    rfl
  · exact h.minted
  · refine List.nodup_append.mpr ⟨h.once, by simp, ?_⟩
    intro r hr t ht
    rintro rfl
    rw [List.mem_singleton] at ht
    exact unfired (ht ▸ hr)
  · intro r hr
    rcases List.mem_append.mp hr with hr | hr
    · exact h.fired_made r hr
    · rw [List.mem_singleton.mp hr]
      exact List.mem_map_of_mem hs

theorem Fits.fireStale (h : Fits bench L w) (n : Nat) : w.fireStale bench n =
    match L.left[n]? with
    | none => (none, w)
    | some s => (some (w.send bench s.event).1, (w.send bench s.event).2) := by
  obtain ⟨b, found, scheduled, -⟩ := h.bench
  have listed : (w.benches.get? bench).bind (·.scheduled[n]?) = L.left[n]? := by
    rw [found, Option.bind_some, scheduled]
  unfold World.fireStale
  generalize (w.benches.get? bench).bind (·.scheduled[n]?) = chosen at listed ⊢
  subst listed
  cases L.left[n]? <;> rfl

/-! ### Moves -/

/-- **Each move fits the ledger.** -/
theorem Fits.play (h : Fits bench L w) (m : ReplayMove) :
    Fits bench (w.note bench L m) (w.play bench m) := by
  cases m with
  | init => exact h.call _
  | recover fault => exact h.call _
  | terminate => exact h.call _
  | stale s => exact h.send s.event
  | trial m =>
    cases m with
    | send e => exact h.send e
    | sendNew topic values scene =>
      have made : Drafts bench w (w.make (Event.make topic values scene w.clock.wall)).2 [] :=
        .elsewhere ⟨rfl, rfl⟩
      exact (h.same made).send _
    | fireNext =>
      unfold World.play World.tryOut World.note
      cases due : w.due? L with
      | none =>
        rw [h.fireNext_of_due?_eq_none due]
        exact h
      | some s =>
        rw [h.fireNext_of_due?_eq_some due]
        exact (h.relist due).send s.event
    | fireStale n =>
      unfold World.play World.tryOut World.note
      simp only [h.fireStale n]
      cases L.left[n]? with
      | none => exact h
      | some s => exact h.send s.event
    | setClock clock => exact h.same (.elsewhere ⟨rfl, rfl⟩)
    | reject rejecting => exact h.same (.modifyBench w bench (fun _ => rfl) fun _ => rfl)
    | cancel reminder => exact h.same (.cancelReminder w reminder)
    | takeEmitted => exact h.same (.modifyBench w bench (fun _ => rfl) fun _ => rfl)
    | clearRecords =>
      obtain ⟨b, found, scheduled, -⟩ := h.bench
      refine ⟨⟨{ b with emitted := [], sent := [], records := [] }, ?_, scheduled, rfl⟩,
        h.minted, h.once, h.fired_made⟩
      exact (get?_modifyBench w bench bench _).trans (by rw [if_pos rfl, found]; rfl)

omit [Behavior β] in
/-- A call calls off at most. -/
theorem isCancelled_call (w : World β) (bench : BenchId) (script : Bench β → Script β)
    {r : ReminderId} (off : w.isCancelled r = true) : (w.call bench script).2.isCancelled r = true := by
  unfold call
  cases w.benches.get? bench with
  | none => exact off
  | some b => exact (beats_perform (script b) w atRest).isCancelled off

theorem isCancelled_send (w : World β) (bench : BenchId) (e : Event) {r : ReminderId}
    (off : w.isCancelled r = true) : (w.send bench e).2.isCancelled r = true := by
  have called := isCancelled_call w bench (fun b => Behavior.process b.resident e) off
  unfold World.send
  generalize w.call bench (fun b => Behavior.process b.resident e) = call at called ⊢
  obtain ⟨outcome, w'⟩ := call
  dsimp only
  split <;> exact called

namespace Onward

variable {L₁ L₂ : Ledger} {w₁ w₂ : World β}

omit [Behavior β] in
theorem trans (h : Onward L w L₁ w₁) (h' : Onward L₁ w₁ L₂ w₂) : Onward L w L₂ w₂ := by
  obtain ⟨new, made⟩ := h.made
  obtain ⟨new', made'⟩ := h'.made
  obtain ⟨more, fired, open_⟩ := h.fired
  obtain ⟨more', fired', open'⟩ := h'.fired
  refine ⟨⟨new ++ new', by rw [made', made, List.append_assoc]⟩, ?_, more ++ more', ?_, ?_⟩
  · intro r off
    exact h'.cancelled r (h.cancelled r off)
  · rw [fired', fired, List.append_assoc]
  · intro r hr
    rcases List.mem_append.mp hr with hr | hr
    · exact open_ r hr
    · have still := open' r hr
      cases off : w.isCancelled r with
      | false => rfl
      | true => rw [h.cancelled r off] at still; exact still

omit [Behavior β] in
/-- A move that fires nothing. -/
theorem of_fired_eq {new : List Scheduled} (made : L₁.made = L.made ++ new) (fired : L₁.fired = L.fired)
    (cancelled : ∀ r, w.isCancelled r = true → w₁.isCancelled r = true) : Onward L w L₁ w₁ :=
  ⟨⟨new, made⟩, cancelled, [], by simp [fired], by simp⟩

omit [Behavior β] in
theorem call (w : World β) (bench : BenchId) (L : Ledger) (script : Bench β → Script β) :
    Onward L w (w.noteCall bench L script) (w.call bench script).2 :=
  of_fired_eq rfl rfl fun _ off => isCancelled_call w bench script off

theorem send (w : World β) (bench : BenchId) (L : Ledger) (e : Event) :
    Onward L w (w.noteSend bench L e) (w.send bench e).2 :=
  of_fired_eq rfl rfl fun _ off => isCancelled_send w bench e off

omit [Behavior β] in
theorem same (cancelled : ∀ r, w.isCancelled r = true → w₁.isCancelled r = true) :
    Onward L w L w₁ :=
  of_fired_eq (List.append_nil _).symm rfl cancelled

end Onward

/-- **Each move goes onward.** -/
theorem Fits.onward (h : Fits bench L w) (m : ReplayMove) :
    Onward L w (w.note bench L m) (w.play bench m) := by
  cases m with
  | init => exact .call w bench L _
  | recover fault => exact .call w bench L _
  | terminate => exact .call w bench L _
  | stale s => exact .send w bench L s.event
  | trial m =>
    cases m with
    | send e => exact .send w bench L e
    | sendNew topic values scene =>
      have made : Onward L w L (w.make (Event.make topic values scene w.clock.wall)).2 :=
        .same fun _ off => off
      exact made.trans (.send _ bench L _)
    | fireNext =>
      unfold World.play World.tryOut World.note
      cases due : w.due? L with
      | none =>
        rw [h.fireNext_of_due?_eq_none due]
        exact .same fun _ off => off
      | some s =>
        rw [h.fireNext_of_due?_eq_some due]
        obtain ⟨-, open_⟩ := of_due?_eq_some due
        have struck : Onward L w (L.strike s.reminder) (w.relist bench (L.strike s.reminder).left) :=
          ⟨⟨[], (List.append_nil _).symm⟩, fun _ off => off, [s.reminder], rfl, by simpa using open_⟩
        exact struck.trans (.send _ bench _ s.event)
    | fireStale n =>
      unfold World.play World.tryOut World.note
      simp only [h.fireStale n]
      cases L.left[n]? with
      | none => exact .same fun _ off => off
      | some s => exact .send w bench L s.event
    | setClock clock => exact .same fun _ off => off
    | reject rejecting => exact .same fun _ off => off
    | cancel reminder => exact .same fun r off => (Jot.cancelReminder reminder).isCancelled off
    | takeEmitted => exact .same fun _ off => off
    | clearRecords => exact .of_fired_eq (List.append_nil _).symm rfl fun _ off => off

/-! ### What a bench does -/

/-- What a delivery schedules comes after all that is listed. -/
theorem Fits.scheduledOn_send (h : Fits bench L w) (e : Event) : (w.send bench e).2.scheduledOn bench =
    L.left ++ w.scheduledBy bench fun b => Behavior.process b.resident e := by
  rw [(h.send e).scheduledOn]
  exact h.left_append (drafts_call w bench fun b => Behavior.process b.resident e).minted

omit [Behavior β] in
theorem due?_eq_none_iff : w.due? L = none ↔
    ∀ s ∈ L.made, s.reminder ∈ L.fired ∨ w.isCancelled s.reminder = true := by
  rw [due?, List.find?_eq_none]
  apply forall₂_congr
  intro s _
  simp only [decide_eq_true_eq, not_and_or, not_not, Bool.not_eq_false]

omit [Behavior β] in
theorem due?_of_append {before after : List Scheduled} {s : Scheduled} (eq : L.made = before ++ s :: after)
    (earlier : ∀ p ∈ before, p.reminder ∈ L.fired ∨ w.isCancelled p.reminder = true)
    (unfired : s.reminder ∉ L.fired) (open_ : w.isCancelled s.reminder = false) : w.due? L = some s := by
  rw [due?, List.find?_eq_some_iff_append]
  refine ⟨by simp [unfired, open_], before, after, eq, ?_⟩
  intro p hp
  rcases earlier p hp with fired | off
  · simp [fired]
  · simp [off]

/-- Calls that do not panic return. -/
theorem forall₂_records {delivered : List (String × Outcome)}
    (returning : ∀ d ∈ delivered, ∀ p, d.2 ≠ .panicked p) :
    List.Forall₂ (fun record d => record.1 = d.1 ∧ returned? d.2 = some record.2)
      (delivered.filterMap fun d => (returned? d.2).map (d.1, ·)) delivered := by
  induction delivered with
  | nil => exact .nil
  | cons d delivered ih =>
    have rest := ih fun d hd => returning d (List.mem_cons_of_mem _ hd)
    obtain ⟨topic, outcome⟩ := d
    cases outcome with
    | done => exact .cons ⟨rfl, rfl⟩ rest
    | failed err => exact .cons ⟨rfl, rfl⟩ rest
    | panicked p => exact absurd rfl (returning _ List.mem_cons_self p)

theorem Fits.trueToLedger (h : Fits bench L w) : TrueToLedger bench L w := by
  constructor
  case listed => exact h.scheduledOn
  case apart => exact h.minted.nodup
  case once => exact h.once
  case fired_made => exact h.fired_made
  case fires_none_iff =>
    rw [← due?_eq_none_iff]
    cases due : w.due? L with
    | none => simp [h.fireNext_of_due?_eq_none due]
    | some s => simp [h.fireNext_of_due?_eq_some due]
  case fires_nothing =>
    intro nothing
    cases due : w.due? L with
    | none => rw [h.fireNext_of_due?_eq_none due]
    | some s => simp [h.fireNext_of_due?_eq_some due] at nothing
  case fires =>
    intro before s after eq earlier unfired open_ others w₁
    have due := due?_of_append eq earlier unfired open_
    exact ⟨h.fireNext_of_due?_eq_some due, (h.relist due).scheduledOn_send s.event⟩
  case sends =>
    intro e
    rw [h.scheduledOn, h.scheduledOn_send]
  case fires_stale =>
    intro n s there
    rw [h.scheduledOn] at there
    rw [h.fireStale, there]
  case recorded =>
    intro returning
    rw [h.recordsOn]
    exact forall₂_records returning

omit [Behavior β] in
/-- A new bench fits the empty ledger. -/
theorem fits_addBench (w₀ : World β) (id : CellId) (resident : β) :
    Fits w₀.benches.next {} (w₀.addBench id resident).2 := by
  refine ⟨⟨{ id, resident }, ?_, rfl, rfl⟩, .nil (Nat.zero_le _), List.nodup_nil, by simp⟩
  exact (Table.get?_add w₀.benches _ _).trans (if_pos rfl)

/-- What fits goes on to fit. -/
theorem Fits.replay (h : Fits bench L w) (moves : List ReplayMove) :
    Fits bench (replay bench L w moves).1 (replay bench L w moves).2 ∧
      Onward L w (replay bench L w moves).1 (replay bench L w moves).2 := by
  induction moves generalizing L w with
  | nil => exact ⟨h, .same fun _ off => off⟩
  | cons m moves ih =>
    obtain ⟨fits, onward⟩ := ih (h.play m)
    exact ⟨fits, (h.onward m).trans onward⟩

/-- **A bench replays reminders faithfully.** Whatever a behavior is and whatever is done with it on a new
bench, the bench is true to its ledger: it lists what was scheduled and not fired, fires the oldest of it
that was not called off, and has a record for each delivery. Later moves take nothing of that back. -/
theorem replay_faithful (w₀ : World β) (id : CellId) (resident : β) (moves more : List ReplayMove) :
    let bench := w₀.benches.next
    let now := replay bench {} (w₀.addBench id resident).2 moves
    let later := replay bench now.1 now.2 more
    TrueToLedger bench now.1 now.2 ∧ Onward now.1 now.2 later.1 later.2 := by
  intro bench now later
  have fits := ((fits_addBench w₀ id resident).replay moves).1
  exact ⟨fits.trueToLedger, (fits.replay more).2⟩

/-- A detector that is hit twice calls its check off, and the check stays listed; that of the third hit is
fired. -/
example :
    let fresh : World (Resident Actor) :=
      ((startingAt ⟨0, 0⟩).addBench ⟨"p"⟩ (.pair { criterion := .always, window := .ofMillis 10 })).2
    let hit : ReplayMove := .trial (.sendNew "m" .empty none)
    let (L, w) := replay ⟨0⟩ {} fresh [.init, hit, hit, hit, .trial .fireNext]
    L.made.map (·.reminder) = [⟨0⟩, ⟨1⟩] ∧ L.fired = [⟨1⟩] ∧ L.delivered.length = 4 ∧
      (w.scheduledOn ⟨0⟩).map (·.reminder) = [⟨0⟩] := by
  exact ⟨rfl, rfl, rfl, rfl⟩

end Moves

end World

end EventMesh
