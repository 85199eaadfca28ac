import EventMesh.Proofs.Behavior.Bench
import EventMesh.Proofs.Mesh.Agenda

/-!
# What a call schedules on a bench

A script may do anything in between: route events, start and stop cells, answer waiters, and record on
other benches. On a given bench it schedules what it asks for (`scheduledIn`), each event under a reminder
that is newer than all before (`Minted`). Main statement: so it is for every script, and what was listed
on the bench stays listed, ahead of what is new (`drafts_perform`).
-/

namespace EventMesh

open Time

/-- Whether events that are to come back are kept on a bench. -/
def Outlet.isOn (bench : BenchId) : Outlet → Bool
  | .bench b _ => b = bench
  | .cell .. => false

namespace World

variable {β : Type}

/-- What a script schedules on a bench, in order. Cells that it starts may schedule there too. -/
def scheduledIn (bench : BenchId) : Script β → World β → List Scheduled
  | .finish _ _, _ => []
  | .survey k, w => scheduledIn bench (k w.survey) w
  | .build values k, w =>
    let (p, w) := w.make (Serials.makePayload values)
    scheduledIn bench (k p) w
  | .create topic values scene k, w =>
    let (e, w) := w.make (Event.make topic values scene w.clock.wall)
    scheduledIn bench (k e) w
  | .emit outlet e k, w =>
    let (r, w) := w.emit outlet e
    scheduledIn bench (k r) w
  | .emitTo outlet target e k, w =>
    let (r, w) := w.emitTo outlet target e
    scheduledIn bench (k r) w
  | .emitAfter outlet delay e k, w =>
    let (reminder, w) := w.emitAfter outlet delay e
    (if outlet.isOn bench then [⟨delay, e, reminder⟩] else []) ++ scheduledIn bench (k reminder) w
  | .cancelReminder reminder k, w => scheduledIn bench k (w.cancelReminder reminder)
  | .answer waiter p k, w =>
    let (won, w) := w.answer waiter p
    scheduledIn bench (k won) w
  | .store scene key p k, w =>
    let (r, w) := w.store scene key p
    scheduledIn bench (k r) w
  | .start mesh id seed init k, w =>
    let first :=
      match w.refusal? mesh id with
      | some _ => []
      | none =>
        let (key, generation, w) := w.conceive mesh id seed
        scheduledIn bench (init (.cell mesh key id generation)) w
    let (r, w) := w.startWith mesh id seed fun outlet w => perform (init outlet) w
    first ++ scheduledIn bench (k r) w
  | .stopMesh mesh k, w => scheduledIn bench k (w.beginShutdown mesh).2

/-! ### Elsewhere -/

/-- Benches and reminders are as they were. -/
structure Elsewhere (w w' : World β) : Prop where
  benches : w'.benches = w.benches
  reminders : w'.reminders = w.reminders

section Elsewhere

variable {w w₁ w₂ : World β}

theorem Elsewhere.trans (h : Elsewhere w w₁) (h' : Elsewhere w₁ w₂) : Elsewhere w w₂ :=
  ⟨h'.benches.trans h.benches, h'.reminders.trans h.reminders⟩

theorem elsewhere_enlist (w : World β) (j : Job) : Elsewhere w (w.enlist j) := by
  rw [enlist_eq]
  exact ⟨rfl, rfl⟩

theorem elsewhere_modifyCell (w : World β) (key : CellKey) (f : Cell β → Cell β) :
    Elsewhere w (w.modifyCell key f) := ⟨rfl, rfl⟩

theorem clears_elsewhere : Clears (Elsewhere (β := β)) where
  refl _ := ⟨rfl, rfl⟩
  trans := Elsewhere.trans
  modifyMesh _ _ _ _ := ⟨rfl, rfl⟩
  close w key := elsewhere_modifyCell w key _
  enlist := elsewhere_enlist

theorem elsewhere_deliver (w : World β) (mesh : MeshId) (target : CellId) (e : Event) :
    Elsewhere w (w.deliver mesh target e).2 := by
  rcases deliver_cases w mesh target e with ⟨err, -, refused⟩ | ⟨key, -, sent⟩
  · rw [refused]
    exact ⟨rfl, rfl⟩
  · rw [sent]
    exact (elsewhere_modifyCell w key _).trans (elsewhere_enlist _ _)

theorem elsewhere_publish (w : World β) (mesh : MeshId) (emitter : CellId) (e : Event) :
    Elsewhere w (w.publish mesh emitter e).2 := by
  unfold publish
  split
  · exact ⟨rfl, rfl⟩
  · exact clears_elsewhere.foldl (fun w target => elsewhere_deliver w mesh target e) _ w

theorem elsewhere_register (w : World β) (mesh : MeshId) (id : CellId) (key : CellKey) :
    Elsewhere w (w.register mesh id key) := by
  unfold register
  refine Elsewhere.trans ?_ (elsewhere_enlist _ _)
  exact ⟨rfl, rfl⟩

theorem elsewhere_letIn (w : World β) (mesh : MeshId) (id : CellId) (key : CellKey) (resident : β)
    (outcome : Outcome) : Elsewhere w (w.letIn mesh id key resident outcome).2 := by
  rcases letIn_cases w mesh id key resident outcome with refused | ⟨-, -, entered⟩
  · rw [refused]
    exact ⟨rfl, rfl⟩
  · rw [entered]
    exact (elsewhere_modifyCell w key _).trans (elsewhere_register _ mesh id key)

theorem elsewhere_wake {w' : World β} (h : Elsewhere w w') : Elsewhere w w'.wake :=
  h.trans (clears_elsewhere.wake w')

theorem elsewhere_spawn (w : World β) (errand : Errand) : Elsewhere w (w.spawn errand).2 := by
  unfold spawn
  refine Elsewhere.trans ?_ (elsewhere_enlist _ _)
  dsimp only
  split <;> exact ⟨rfl, rfl⟩

end Elsewhere

/-! ### Drafts -/

/-- Reminders made one after the other, when there were so many before and so many afterwards. -/
structure Minted (before after : Nat) (new : List Scheduled) : Prop where
  le : before ≤ after
  later : ∀ s ∈ new, before ≤ s.reminder.index
  known : ∀ s ∈ new, s.reminder.index < after
  ascending : new.Pairwise fun s t => s.reminder.index < t.reminder.index

namespace Minted

variable {i j k : Nat} {first second : List Scheduled}

theorem nil (h : i ≤ j) : Minted i j [] := ⟨h, by simp, by simp, List.Pairwise.nil⟩

theorem append (h : Minted i j first) (h' : Minted j k second) : Minted i k (first ++ second) := by
  constructor
  · exact Nat.le_trans h.le h'.le
  · intro s hs
    rcases List.mem_append.mp hs with hs | hs
    · exact h.later s hs
    · exact Nat.le_trans h.le (h'.later s hs)
  · intro s hs
    rcases List.mem_append.mp hs with hs | hs
    · exact Nat.lt_of_lt_of_le (h.known s hs) h'.le
    · exact h'.known s hs
  · refine List.pairwise_append.mpr ⟨h.ascending, h'.ascending, ?_⟩
    intro s hs t ht
    exact Nat.lt_of_lt_of_le (h.known s hs) (h'.later t ht)

/-- The next reminder. -/
theorem one (n : Nat) (delay : Duration) (e : Event) : Minted n (n + 1) [⟨delay, e, ⟨n⟩⟩] :=
  ⟨Nat.le_succ n, by simp, by simp, by simp⟩

/-- No two events are scheduled under one reminder. -/
theorem nodup (h : Minted i j first) : (first.map (·.reminder)).Nodup := by
  refine List.pairwise_map.mpr (h.ascending.imp ?_)
  intro s t lt same
  rw [same] at lt
  exact Nat.lt_irrefl _ lt

end Minted

/-- What is scheduled on a bench is added to its list, and its records are as they were. -/
structure Drafts (bench : BenchId) (w w' : World β) (new : List Scheduled) : Prop where
  bench : ∀ {b}, w.benches.get? bench = some b → ∃ b', w'.benches.get? bench = some b' ∧
    b'.scheduled = b.scheduled ++ new ∧ b'.records = b.records
  minted : Minted w.reminders.size w'.reminders.size new

namespace Drafts

variable {bench : BenchId} {w w₁ w₂ : World β} {first second : List Scheduled}

theorem of_size (benches : w₁.benches = w.benches) (size : w.reminders.size ≤ w₁.reminders.size) :
    Drafts bench w w₁ [] := by
  refine ⟨?_, .nil size⟩
  intro b found
  exact ⟨b, by rw [benches, found], by simp, rfl⟩

theorem elsewhere (h : Elsewhere w w₁) : Drafts bench w w₁ [] :=
  of_size h.benches (Nat.le_of_eq (by rw [h.reminders]))

theorem trans (h : Drafts bench w w₁ first) (h' : Drafts bench w₁ w₂ second) :
    Drafts bench w w₂ (first ++ second) := by
  refine ⟨?_, h.minted.append h'.minted⟩
  intro b found
  obtain ⟨b₁, found₁, scheduled, records⟩ := h.bench found
  obtain ⟨b₂, found₂, scheduled', records'⟩ := h'.bench found₁
  refine ⟨b₂, found₂, ?_, records'.trans records⟩
  rw [scheduled', scheduled, List.append_assoc]

/-- Something that schedules nothing may go ahead. -/
theorem after (h : Drafts bench w₁ w₂ second) (ahead : Drafts bench w w₁ []) :
    Drafts bench w w₂ second :=
  ahead.trans h

/-- A change of any bench that leaves its list and its records. -/
theorem modifyBench (w : World β) (j : BenchId) {f : Bench β → Bench β}
    (scheduled : ∀ b, (f b).scheduled = b.scheduled) (records : ∀ b, (f b).records = b.records) :
    Drafts bench w (w.modifyBench j f) [] := by
  refine ⟨?_, .nil (Nat.le_refl _)⟩
  intro b found
  rw [get?_modifyBench, found]
  split
  · exact ⟨f b, rfl, by rw [scheduled, List.append_nil], records b⟩
  · exact ⟨b, rfl, by rw [List.append_nil], rfl⟩

theorem record (w : World β) (j : BenchId) {f : Bench β → Bench β}
    (scheduled : ∀ b, (f b).scheduled = b.scheduled) (records : ∀ b, (f b).records = b.records) :
    Drafts bench w (w.record j f).2 [] := by
  unfold World.record
  split
  · exact elsewhere ⟨rfl, rfl⟩
  · exact modifyBench w j scheduled records

theorem throughMesh (w : World β) (mesh : MeshId)
    {routed : World β → Except MeshError Unit × World β} (h : ∀ w, Elsewhere w (routed w).2) :
    Drafts bench w (w.throughMesh mesh routed).2 [] :=
  elsewhere (clears_elsewhere.throughMesh w mesh h)

theorem emit (w : World β) (outlet : Outlet) (e : Event) :
    Drafts bench w (w.emit outlet e).2 [] := by
  cases outlet with
  | cell mesh key id generation => exact throughMesh w mesh fun w => elsewhere_publish w mesh id e
  | bench j id => exact record w j (fun _ => rfl) fun _ => rfl

theorem emitTo (w : World β) (outlet : Outlet) (target : CellId) (e : Event) :
    Drafts bench w (w.emitTo outlet target e).2 [] := by
  cases outlet with
  | cell mesh key id generation => exact throughMesh w mesh fun w => elsewhere_deliver w mesh target e
  | bench j id => exact record w j (fun _ => rfl) fun _ => rfl

/-- An event is scheduled on this bench, or it is none of its concern. -/
theorem emitAfter (w : World β) (outlet : Outlet) (delay : Duration) (e : Event) :
    Drafts bench w (w.emitAfter outlet delay e).2
      (if outlet.isOn bench then [⟨delay, e, (w.emitAfter outlet delay e).1⟩] else []) := by
  cases outlet with
  | cell mesh key id generation =>
    rw [emitAfter_cell]
    apply of_size
    · exact (elsewhere_spawn w.addReminder.2 _).benches
    · rw [Table.size_modify, Table.size_add]
      exact Nat.le_succ _
  | bench j id =>
    have size : (w.emitAfter (.bench j id) delay e).2.reminders.size = w.reminders.size + 1 :=
      Table.size_add w.reminders {}
    by_cases here : j = bench
    · subst here
      rw [if_pos (by simp [Outlet.isOn])]
      constructor
      · intro b found
        rw [get?_emitAfter, found]
        exact ⟨_, rfl, rfl, rfl⟩
      · rw [size]
        exact .one w.reminders.size delay e
    · rw [if_neg (by simpa [Outlet.isOn] using here)]
      constructor
      · intro b found
        refine ⟨b, ?_, by simp, rfl⟩
        exact (Table.get?_modify w.benches _ _ _).trans ((if_neg here).trans found)
      · rw [size]
        exact .nil (Nat.le_succ _)

theorem cancelReminder (w : World β) (r : ReminderId) : Drafts bench w (w.cancelReminder r) [] := by
  rw [cancelReminder_eq]
  exact of_size rfl (Nat.le_of_eq (Table.size_modify _ _ _).symm)

theorem answer (w : World β) (waiter : WaiterId) (p : Payload) :
    Drafts bench w (w.answer waiter p).2 [] := by
  apply elsewhere
  exact elsewhere_wake ⟨rfl, rfl⟩

theorem store (w : World β) (scene : SceneId) (key : String) (p : Payload) :
    Drafts bench w (w.store scene key p).2 [] := by
  unfold World.store
  split
  · exact elsewhere ⟨rfl, rfl⟩
  · dsimp only
    split
    · exact elsewhere ⟨rfl, rfl⟩
    · apply elsewhere
      exact elsewhere_wake ⟨rfl, rfl⟩

/-- A cell that is started makes its first call in between, unless it is refused at once. -/
theorem startWith (w : World β) (mesh : MeshId) (id : CellId) (seed : β)
    {firstCall : Outlet → World β → β × Outcome × World β} {new : Outlet → World β → List Scheduled}
    (h : ∀ outlet w, Drafts bench w (firstCall outlet w).2.2 (new outlet w)) :
    Drafts bench w (w.startWith mesh id seed firstCall).2
      (match w.refusal? mesh id with
        | some _ => []
        | none =>
          let (key, generation, w) := w.conceive mesh id seed
          new (.cell mesh key id generation) w) := by
  unfold World.startWith
  cases w.refusal? mesh id with
  | some err => exact elsewhere ⟨rfl, rfl⟩
  | none =>
    dsimp only
    have conceived : Elsewhere w (w.conceive mesh id seed).2.2 := ⟨rfl, rfl⟩
    generalize w.conceive mesh id seed = made at conceived ⊢
    obtain ⟨key, generation, w₁⟩ := made
    have called := h (.cell mesh key id generation) w₁
    generalize firstCall (.cell mesh key id generation) w₁ = call at called ⊢
    obtain ⟨resident, outcome, w₂⟩ := call
    have entered := called.trans (elsewhere (elsewhere_letIn w₂ mesh id key resident outcome))
    rw [List.append_nil] at entered
    exact entered.after (elsewhere conceived)

end Drafts

/-- **A script schedules on a bench what it asks for**, after what is listed there. -/
theorem drafts_perform (bench : BenchId) (s : Script β) (w : World β) :
    Drafts bench w (perform s w).2.2 (scheduledIn bench s w) := by
  induction s generalizing w with
  | finish next outcome => exact .elsewhere ⟨rfl, rfl⟩
  | survey k ih => exact ih _ w
  | build values k ih => exact (ih _ _).after (.elsewhere ⟨rfl, rfl⟩)
  | create topic values scene k ih => exact (ih _ _).after (.elsewhere ⟨rfl, rfl⟩)
  | emit outlet e k ih => exact (ih _ _).after (.emit w outlet e)
  | emitTo outlet target e k ih => exact (ih _ _).after (.emitTo w outlet target e)
  | emitAfter outlet delay e k ih => exact (Drafts.emitAfter w outlet delay e).trans (ih _ _)
  | cancelReminder reminder k ih => exact (ih _).after (.cancelReminder w reminder)
  | answer waiter reply k ih => exact (ih _ _).after (.answer w waiter reply)
  | store scene key payload k ih => exact (ih _ _).after (.store w scene key payload)
  | stopMesh mesh k ih => exact (ih _).after (.elsewhere (clears_elsewhere.beginShutdown w mesh))
  | start mesh id seed init k ihInit ih =>
    rw [scheduledIn, perform]
    exact (Drafts.startWith w mesh id seed ihInit).trans (ih _ _)

end World

end EventMesh
