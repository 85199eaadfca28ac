import EventMesh.Behavior.Actor
import EventMesh.Proofs.Mesh.Incarnation
import EventMesh.Proofs.Mesh.Registry

/-!
# Settled worlds

Whoever has something to do is ready (`World.Prompt`), so in a settled world no incarnation drains
and none that runs has anything in its queue. Together with the order of registries this says what a
registry lists once a mesh has come to rest: the cells that take every event sent to them, and those
whose loop broke off in a recovery that panicked (`registry_exact`).
-/

namespace EventMesh

namespace Cell

variable {β : Type} {hand next : Hand} {c c' : Cell β}

/-- Whether the loop of an incarnation has something to do. -/
def Pending (c : Cell β) : Prop := c.phase = .draining ∨ c.phase = .running ∧ c.queue ≠ []

theorem Worked.pending (h : Worked hand c next c') (hp : c'.Pending) : c.Pending := by
  cases h with
  | take running hq =>
    rcases running with running | draining
    · exact Or.inr ⟨running, by rw [hq]; nofun⟩
    · exact Or.inl draining
  | handled => exact hp
  | recovered => exact hp
  | brokeOff =>
    rcases hp with hp | ⟨hp, -⟩
    · cases hp
    · cases hp
  | terminated => exact hp

theorem Left.not_pending (h : Left hand c c') : ¬ c'.Pending := by
  rintro (hp | ⟨hp, -⟩)
  · cases h <;> cases hp
  · cases h <;> cases hp

/-- An incarnation broke off just if a recovery panicked, and only a loop that goes on is at an event
or at a fault. -/
structure Coherent (hand : Hand) (c : Cell β) : Prop where
  busy : hand = .idle ∨ hand = .last ∨ c.phase = .running ∨ c.phase = .draining
  crashed : c.phase = .crashed ↔ ∃ fault p, Call.recover fault (.panicked p) ∈ c.calls

namespace Coherent

/-- The next call of an incarnation that is not broken off, other than a recovery that panics. -/
theorem call (h : c.Coherent hand) {call : Call} {resident : β}
    (harmless : ∀ fault p, call ≠ .recover fault (.panicked p))
    (busy : next = .idle ∨ next = .last ∨ c.phase = .running ∨ c.phase = .draining) :
    (c.after call resident).Coherent next := by
  refine ⟨busy, ?_⟩
  show c.phase = .crashed ↔ ∃ fault p, Call.recover fault (.panicked p) ∈ c.calls ++ [call]
  rw [h.crashed]
  constructor
  · rintro ⟨fault, p, hm⟩
    exact ⟨fault, p, List.mem_append_left _ hm⟩
  · rintro ⟨fault, p, hm⟩
    rcases List.mem_append.mp hm with hold | hnew
    · exact ⟨fault, p, hold⟩
    · exact absurd (List.mem_singleton.mp hnew).symm (harmless fault p)

/-- Another phase of an incarnation that did not break off. -/
theorem rephase (h : c.Coherent hand) {phase : Phase} (before : c.phase ≠ .crashed)
    (after : phase ≠ .crashed) (queue : List Event)
    (busy : next = .idle ∨ next = .last ∨ phase = .running ∨ phase = .draining) :
    Coherent next { c with phase, queue } := by
  refine ⟨busy, ?_⟩
  show phase = .crashed ↔ ∃ fault p, Call.recover fault (.panicked p) ∈ c.calls
  rw [← h.crashed]
  exact ⟨fun hp => absurd hp after, fun hp => absurd hp before⟩

/-- Only a loop that goes on is in the middle of something. -/
theorem goes_on (h : c.Coherent hand) (not_idle : hand ≠ .idle) (not_last : hand ≠ .last) :
    c.phase = .running ∨ c.phase = .draining := by
  rcases h.busy with idle | last | going
  · exact absurd idle not_idle
  · exact absurd last not_last
  · exact going

theorem close (h : c.Coherent hand) : c.close.Coherent hand := by
  unfold Cell.close
  split
  · rename_i hp
    have running : c.phase = .running := by simpa using hp
    exact h.rephase (by rw [running]; nofun) (by nofun) c.queue (Or.inr (Or.inr (Or.inr rfl)))
  · exact h

theorem judge (h : c.Coherent hand) (hp : c.phase = .starting) (outcome : Outcome) (resident : β)
    {phase : Phase} (judged : phase = .refused ∨ phase = .running) :
    Coherent hand { c.after (.init outcome) resident with phase } := by
  have free : hand = .idle ∨ hand = .last := by
    rcases h.busy with hb | hb | hb | hb
    · exact Or.inl hb
    · exact Or.inr hb
    · rw [hp] at hb
      cases hb
    · rw [hp] at hb
      cases hb
  have called : (c.after (.init outcome) resident).Coherent hand := h.call (by nofun) h.busy
  refine called.rephase ?_ ?_ c.queue ?_
  · show c.phase ≠ .crashed
    rw [hp]
    nofun
  · rcases judged with rfl | rfl
    · nofun
    · nofun
  · rcases free with hf | hf
    · exact Or.inl hf
    · exact Or.inr (Or.inl hf)

theorem worked (h : c.Coherent hand) (s : Worked hand c next c') : c'.Coherent next := by
  cases s with
  | take hp hq => exact ⟨Or.inr (Or.inr hp), h.crashed⟩
  | handled c e outcome resident =>
    exact h.call (by nofun) (Or.inr (Or.inr (h.goes_on (by nofun) (by nofun))))
  | recovered c fault resident => exact h.call (by nofun) (Or.inl rfl)
  | brokeOff c fault p resident =>
    refine ⟨Or.inl rfl, fun _ => ⟨fault, p, ?_⟩, fun _ => rfl⟩
    exact List.mem_append_right _ (List.mem_singleton_self _)
  | terminated c outcome resident => exact h.call (by nofun) (Or.inl rfl)

theorem left (h : c.Coherent hand) (s : Left hand c c') : c'.Coherent .last := by
  cases s with
  | gaveUp c fault err resident =>
    have called : (c.after (.recover fault (.failed err)) resident).Coherent .idle :=
      h.call (by nofun) (Or.inl rfl)
    refine called.rephase ?_ (by nofun) [] (Or.inr (Or.inl rfl))
    show c.phase ≠ .crashed
    rcases h.goes_on (by nofun) (by nofun) with hp | hp
    · rw [hp]
      nofun
    · rw [hp]
      nofun
  | drained hp hq =>
    exact h.rephase (by rw [hp]; nofun) (by nofun) [] (Or.inr (Or.inl rfl))

theorem invariant : Invariant (Coherent (β := β)) where
  born mesh id generation seed := ⟨Or.inl rfl, by nofun, by rintro ⟨fault, p, ⟨⟩⟩⟩
  accept h _ _ := ⟨h.busy, h.crashed⟩
  close := close
  judge h hp outcome resident _ judged := h.judge hp outcome resident (judged.imp_right And.left)
  worked := worked
  left := left

end Coherent

end Cell

namespace World

open Function Time

variable {β : Type}

/-! ### Who has something to do -/

/-- Whoever has something to do is ready. -/
def Prompt (w : World β) : Prop :=
  ∀ key c, w.cells.get? key = some c → c.Pending → .cell key ∈ w.ready

section Prompt

variable {w w' : World β}

/-- A change in which nobody stops being ready, and whoever gets something to do gets ready. -/
theorem Prompt.grow (h : w.Prompt) (ready : ∀ key, .cell key ∈ w.ready → .cell key ∈ w'.ready)
    (cells : ∀ key c, w'.cells.get? key = some c → c.Pending →
      (∃ c₀, w.cells.get? key = some c₀ ∧ c₀.Pending) ∨ .cell key ∈ w'.ready) : w'.Prompt := by
  intro key c hc pending
  rcases cells key c hc pending with ⟨c₀, hc₀, pending₀⟩ | already
  · exact ready key (h key c₀ hc₀ pending₀)
  · exact already

/-- A change that leaves incarnations and ready jobs as they are. -/
theorem Prompt.of_eq (h : w.Prompt) (cells : w'.cells = w.cells) (ready : w'.ready = w.ready) :
    w'.Prompt := by
  unfold Prompt
  rwa [cells, ready]

theorem Prompt.modifyMesh (h : w.Prompt) (mesh : MeshId) (f : Mesh → Mesh) :
    (w.modifyMesh mesh f).Prompt := h

/-- A change of one incarnation, which gets ready. -/
theorem Prompt.enlist (h : w.Prompt) (key : CellKey) (f : Cell β → Cell β) :
    ((w.modifyCell key f).enlist (.cell key)).Prompt := by
  refine h.grow (fun j hj => (mem_enlist ..).mpr (Or.inl hj)) fun j c hc pending => ?_
  rw [enlist_cells, get?_modifyCell] at hc
  split at hc
  · rename_i hj
    exact Or.inr ((mem_enlist ..).mpr (Or.inr (by rw [hj])))
  · exact Or.inl ⟨c, hc, pending⟩

theorem Prompt.vacate (h : w.Prompt) (mesh : MeshId) : (w.vacate mesh).Prompt := by
  have fold : ∀ (keys : List CellKey) (w : World β), w.Prompt → (keys.foldl drain w).Prompt := by
    intro keys
    induction keys with
    | nil => exact fun w hw => hw
    | cons key keys ih => exact fun w hw => ih _ (hw.enlist key _)
  unfold World.vacate
  split
  · exact h
  · exact fold _ _ (h.of_eq rfl rfl)

theorem prompt_deed {floor : Nat} (d : Deed floor w w') (h : w.Prompt) : w'.Prompt := by
  cases d with
  | aside a =>
    refine h.grow (fun key => (a.ready key).mpr) fun key c hc pending => Or.inl ⟨c, ?_, pending⟩
    rwa [a.cells] at hc
  | accept e leads => exact h.enlist _ _
  | @conceive mesh id seed free =>
    refine h.grow (fun _ hk => hk) fun j c hc pending => ?_
    simp only [World.conceive, modifyMesh, Table.get?_add] at hc
    split at hc
    · cases hc
      rcases pending with hp | ⟨hp, -⟩ <;> cases hp
    · exact Or.inl ⟨c, hc, pending⟩
  | @letIn key c resident outcome hfloor hc hp =>
    rcases letIn_cases w c.mesh c.id key resident outcome with turned | ⟨-, -, registered⟩
    · rw [turned]
      refine h.grow (fun _ hk => hk) fun j d hd pending => ?_
      rw [get?_modifyCell (w.modifyCell key (·.after (.init outcome) resident))] at hd
      split at hd
      · obtain ⟨d₀, -, rfl⟩ := Option.map_eq_some_iff.mp hd
        rcases pending with hp | ⟨hp, -⟩ <;> cases hp
      · rename_i hj
        rw [get?_modifyCell, if_neg hj] at hd
        exact Or.inl ⟨d, hd, pending⟩
    · rw [registered]
      refine h.grow (fun j hj => (mem_enlist ..).mpr (Or.inl hj)) fun j d hd pending => ?_
      by_cases hj : key = j
      · exact Or.inr ((mem_enlist ..).mpr (Or.inr (by rw [hj])))
      · rw [get?_register, get?_modifyCell, if_neg hj, if_neg hj] at hd
        exact Or.inl ⟨d, hd, pending⟩
  | openMesh name requestTimeout => exact h.of_eq rfl rfl
  | hold mesh => exact h.of_eq rfl rfl
  | release mesh =>
    unfold World.release
    dsimp only
    split
    · exact (h.modifyMesh mesh _).vacate mesh
    · exact h.of_eq rfl rfl
  | beginShutdown mesh => exact (h.modifyMesh mesh _).vacate mesh
  | stopCell mesh id =>
    unfold World.stopCell
    split
    · exact h
    · exact (h.modifyMesh mesh _).enlist _ _
  | subscribe mesh emitter ids =>
    unfold World.subscribe
    split
    · exact h
    · exact h.of_eq rfl rfl
  | unsubscribe mesh emitter ids =>
    unfold World.unsubscribe
    split
    · exact h.of_eq rfl rfl
    · exact h

theorem deregister_ready (w : World β) (key : CellKey) : (w.deregister key).ready = w.ready := by
  unfold deregister
  split <;> rfl

/-- **Every step leaves whoever has something to do ready.** -/
theorem prompt_step {hand hand' : CellKey → Hand} (s : Step w hand w' hand') (h : w.Prompt) :
    w'.Prompt := by
  cases s with
  | deed d => exact prompt_deed d h
  | @work key c c' next hc worked =>
    refine h.grow (fun _ hk => hk) fun j d hd pending => Or.inl ?_
    rw [get?_put hc] at hd
    split at hd
    · rename_i hj
      cases hd
      exact ⟨c, hj ▸ hc, worked.pending pending⟩
    · exact ⟨d, hd, pending⟩
  | @leave key c c' hc left =>
    refine h.grow (fun j hj => ?_) fun j d hd pending => Or.inl ?_
    · rwa [deregister_ready]
    · rw [deregister_cells, get?_put hc] at hd
      split at hd
      · cases hd
        exact absurd pending left.not_pending
      · exact ⟨d, hd, pending⟩
  | @dismiss key idle =>
    intro j c hc pending
    by_cases hj : j = key
    · subst hj
      obtain ⟨not_draining, nothing_waits⟩ := idle c hc
      rcases pending with draining | ⟨running, waiting⟩
      · exact absurd draining not_draining
      · exact absurd (nothing_waits running) waiting
    · exact (List.mem_erase_of_ne (by simpa using hj)).mpr (h j c hc pending)

end Prompt

/-! ### Names in a settled world -/

/-- Whether the recovery of the incarnation registered under a name panicked. -/
def BrokenOff (w : World β) (mesh : MeshId) (id : CellId) : Prop :=
  ∃ key c fault p, w.lookUp mesh id = some key ∧ w.cells.get? key = some c ∧
    Call.recover fault (.panicked p) ∈ c.calls

section Names

variable {w : World β} {mesh : MeshId} {m : Mesh} {id : CellId} {key : CellKey} {c : Cell β}

theorem deliver_of_running (hm : w.meshes.get? mesh = some m) (going : m.stopping = false)
    (hk : w.lookUp mesh id = some key) (hc : w.cells.get? key = some c)
    (running : c.phase = .running) (e : Event) :
    w.deliver mesh id e = (.ok (), w.accept key e) := by
  rw [lookUp_eq hm] at hk
  simp [deliver, route, ifOpen, hm, going, taker?, hk, Option.filter, hc, Cell.isOpen, running]

/-- No event is taken under a name that leads to nobody, or to somebody who does not run. -/
theorem deliver_of_not_running (hm : w.meshes.get? mesh = some m) (going : m.stopping = false)
    (nobody : ∀ key, w.lookUp mesh id = some key →
      ∃ c, w.cells.get? key = some c ∧ c.phase ≠ .running) (e : Event) :
    (w.deliver mesh id e).1 = .error (.cellNotFound id) := by
  have no_taker : w.taker? m id = none := by
    rw [taker?, ← lookUp_eq hm]
    cases hk : w.lookUp mesh id with
    | none => rfl
    | some key =>
      obtain ⟨c, hc, hp⟩ := nobody key hk
      simp [Option.filter, hc, Cell.isOpen, hp]
  simp [deliver, route, ifOpen, hm, going, no_taker]

theorem refusal?_of_open (hm : w.meshes.get? mesh = some m) (going : m.stopping = false) :
    w.refusal? mesh id = if w.hasCell mesh id then some (.duplicateCell id) else none := by
  simp [refusal?, ifOpen, hm, going, hasCell]

variable [Behavior β]

/-- The next event is handed to the behavior of a cell that runs and has nothing else to do. -/
theorem stepCell_accept (hc : w.cells.get? key = some c) (running : c.phase = .running)
    (idle : c.queue = []) (e : Event) :
    (w.accept key e).stepCell key = (w.accept key e).handle key c.resident e := by
  unfold stepCell
  rw [get?_accept, if_pos rfl, hc, Option.map_some]
  simp [Cell.accept, running, idle]

/-- A start under a free name succeeds with a first call that just succeeds. -/
theorem start_of_free (free : w.refusal? mesh id = none) {seed : β}
    (simple : ∀ outlet, ∃ next, Behavior.init seed outlet = .finish next .done) :
    (w.start mesh id seed).1 = .ok () := by
  obtain ⟨m, hm, going, absent⟩ := refusal?_eq_none free
  rw [lookUp_eq hm] at absent
  unfold start startWith
  rw [free]
  dsimp only
  obtain ⟨next, hnext⟩ := simple
    (.cell mesh (w.conceive mesh id seed).1 id (w.conceive mesh id seed).2.1)
  rw [hnext, perform, letIn]
  dsimp only
  have still_free : ((w.conceive mesh id seed).2.2.modifyCell (w.conceive mesh id seed).1
      (·.after (.init .done) next)).refusal? mesh id = none := by
    simp [refusal?, ifOpen, modifyCell, conceive, modifyMesh, Table.get?_modify, hm, going,
      Dict.contains, absent]
  rw [still_free]

/-- What a registry says of a name, but for a cell whose recovery panicked. -/
structure ListsExactly (w : World β) (mesh : MeshId) (id : CellId) : Prop where
  /-- A cell is listed just if it takes events; this fails just for a cell that broke off. -/
  listed_iff : ∀ e, (w.hasCell mesh id = true ↔ (w.deliver mesh id e).1 = .ok ()) ↔
    ¬ w.BrokenOff mesh id
  /-- A listed cell runs, has nothing left to do, and handles the next event that is sent to it. -/
  served : w.hasCell mesh id = true → ¬ w.BrokenOff mesh id →
    ∃ key c, w.lookUp mesh id = some key ∧ w.cells.get? key = some c ∧ c.mesh = mesh ∧ c.id = id ∧
      c.phase = .running ∧ c.queue = [] ∧
      ∀ e, (w.deliver mesh id e).2.stepCell key = (w.accept key e).handle key c.resident e
  /-- A name that is not listed is in no subscription and can be used for a start. -/
  free : w.hasCell mesh id = false →
    (∀ emitter, id ∉ w.subscribers mesh emitter) ∧ w.subscribers mesh id = [] ∧
      w.refusal? mesh id = none ∧
      ∀ seed : β, (∀ outlet, ∃ next, Behavior.init seed outlet = .finish next .done) →
        (w.start mesh id seed).1 = .ok ()
  /-- An incarnation whose loop is over is not listed, whatever ended it but a panicking recovery. -/
  finished : ∀ key c, w.cells.get? key = some c → c.isOver = true → w.lookUp mesh id = some key →
    w.BrokenOff mesh id
  /-- A cell that broke off stays listed, takes no event and keeps its name from being used. -/
  broken : w.BrokenOff mesh id → w.hasCell mesh id = true ∧
    (∀ e, (w.deliver mesh id e).1 = .error (.cellNotFound id)) ∧
      w.refusal? mesh id = some (.duplicateCell id)

end Names

/-! ### What registries list -/

section Settled

variable {w : World β} {mesh : MeshId} {m : Mesh} {id : CellId}

theorem prompt_steps {wall : Wall} {hand : CellKey → Hand}
    (h : Steps (startingAt wall) atRest w hand) : w.Prompt := by
  refine h.preserves (P := fun w _ => w.Prompt) prompt_step ?_
  intro key c hc
  rw [startingAt, Table.get?_empty] at hc
  cases hc

theorem orderly_steps {wall : Wall} {hand : CellKey → Hand}
    (h : Steps (startingAt wall) atRest w hand) : w.Orderly :=
  h.preserves (P := fun w _ => w.Orderly) orderly_step (orderly_startingAt wall)

/-- Where no job is ready, no loop drains and none that goes on has an event waiting. -/
theorem Prompt.at_rest (h : w.Prompt) (settled : w.isSettled = true) {key : CellKey} {c : Cell β}
    (hc : w.cells.get? key = some c) : ¬ c.Pending := by
  intro pending
  have ready := h key c hc pending
  rw [List.isEmpty_iff.mp settled] at ready
  cases ready

theorem brokenOff_iff {hand : CellKey → Hand} (coherent : Each Cell.Coherent w hand) :
    w.BrokenOff mesh id ↔ ∃ key c, w.lookUp mesh id = some key ∧ w.cells.get? key = some c ∧
      c.phase = .crashed := by
  constructor
  · rintro ⟨key, c, fault, p, hk, hc, hp⟩
    exact ⟨key, c, hk, hc, (coherent.cells key c hc).crashed.mpr ⟨fault, p, hp⟩⟩
  · rintro ⟨key, c, hk, hc, crashed⟩
    obtain ⟨fault, p, hp⟩ := (coherent.cells key c hc).crashed.mp crashed
    exact ⟨key, c, fault, p, hk, hc, hp⟩

/-- A name that did not break off leads to an incarnation of that name that runs. -/
theorem exists_running (orderly : w.Orderly) {hand : CellKey → Hand}
    (coherent : Each Cell.Coherent w hand) {key : CellKey} (hk : w.lookUp mesh id = some key)
    (whole : ¬ w.BrokenOff mesh id) :
    ∃ c, w.cells.get? key = some c ∧ c.mesh = mesh ∧ c.id = id ∧ c.phase = .running := by
  obtain ⟨c, hc, hmesh, hid, running | crashed⟩ := orderly.found mesh id key hk
  · exact ⟨c, hc, hmesh, hid, running⟩
  · exact absurd ((brokenOff_iff coherent).mpr ⟨key, c, hk, hc, crashed⟩) whole

theorem listed_of_brokenOff {hand : CellKey → Hand} (coherent : Each Cell.Coherent w hand)
    (hm : w.meshes.get? mesh = some m) (going : m.stopping = false)
    (broken : w.BrokenOff mesh id) : w.hasCell mesh id = true ∧
      (∀ e, (w.deliver mesh id e).1 = .error (.cellNotFound id)) ∧
        w.refusal? mesh id = some (.duplicateCell id) := by
  obtain ⟨key, c, hk, hc, crashed⟩ := (brokenOff_iff coherent).mp broken
  have listed : w.hasCell mesh id = true := by
    rw [hasCell_eq, hk]
    rfl
  refine ⟨listed, ?_, ?_⟩
  · refine deliver_of_not_running hm going fun k hk' => ?_
    rw [hk] at hk'
    cases hk'
    exact ⟨c, hc, by rw [crashed]; nofun⟩
  · rw [refusal?_of_open hm going, if_pos listed]

theorem listed_iff_of_whole (orderly : w.Orderly) {hand : CellKey → Hand}
    (coherent : Each Cell.Coherent w hand) (hm : w.meshes.get? mesh = some m)
    (going : m.stopping = false) (whole : ¬ w.BrokenOff mesh id) (e : Event) :
    w.hasCell mesh id = true ↔ (w.deliver mesh id e).1 = .ok () := by
  rw [hasCell_eq]
  constructor
  · intro listed
    obtain ⟨key, hk⟩ := Option.isSome_iff_exists.mp listed
    obtain ⟨c, hc, -, -, running⟩ := exists_running orderly coherent hk whole
    rw [deliver_of_running hm going hk hc running e]
  · intro accepted
    by_contra unlisted
    have nobody : w.lookUp mesh id = none := by simpa using unlisted
    rw [deliver_of_not_running hm going (by rw [nobody]; nofun) e] at accepted
    cases accepted

/-- Who is not registered is in no subscription list and has none. -/
theorem Orderly.unrouted (orderly : w.Orderly) (nobody : w.lookUp mesh id = none) :
    (∀ emitter, id ∉ w.subscribers mesh emitter) ∧ w.subscribers mesh id = [] := by
  constructor
  · intro emitter hid
    have known := (orderly.routed mesh emitter id hid).2
    rw [nobody] at known
    cases known
  · refine List.eq_nil_iff_forall_not_mem.mpr fun i hi => ?_
    have known := (orderly.routed mesh id i hi).1
    rw [nobody] at known
    cases known

variable [Behavior β]

/-- **A settled mesh lists exactly its live cells, and those whose recovery panicked.** Whatever steps
of loops and deeds led to a settled world (runs among them: `steps_run`), in a mesh that is not
stopping every name is listed just if events sent to it are accepted, unless it is the name of a cell
whose recovery panicked, which is listed all the same. -/
theorem registry_exact (wall : Wall) (h : Steps (startingAt wall) atRest w atRest)
    (settled : w.isSettled = true) (hm : w.meshes.get? mesh = some m)
    (going : m.stopping = false) (id : CellId) : w.ListsExactly mesh id := by
  have orderly := orderly_steps h
  have coherent := h.each Cell.Coherent.invariant
  have broken : w.BrokenOff mesh id → _ := listed_of_brokenOff coherent hm going
  refine ⟨?_, ?_, ?_, ?_, broken⟩
  · intro e
    constructor
    · intro listed_iff hb
      obtain ⟨listed, rejected, -⟩ := broken hb
      rw [listed_iff, rejected e] at listed
      cases listed
    · exact fun whole => listed_iff_of_whole orderly coherent hm going whole e
  · intro listed whole
    rw [hasCell_eq] at listed
    obtain ⟨key, hk⟩ := Option.isSome_iff_exists.mp listed
    obtain ⟨c, hc, hmesh, hid, running⟩ := exists_running orderly coherent hk whole
    have idle : c.queue = [] := by
      by_contra waiting
      exact (prompt_steps h).at_rest settled hc (Or.inr ⟨running, waiting⟩)
    refine ⟨key, c, hk, hc, hmesh, hid, running, idle, fun e => ?_⟩
    rw [deliver_of_running hm going hk hc running e]
    exact stepCell_accept hc running idle e
  · intro unlisted
    have name_free : w.refusal? mesh id = none := by
      rw [refusal?_of_open hm going, unlisted]
      rfl
    rw [hasCell_eq] at unlisted
    obtain ⟨targeted, emitting⟩ := orderly.unrouted (by simpa using unlisted)
    exact ⟨targeted, emitting, name_free, fun seed simple => start_of_free name_free simple⟩
  · intro key c hc finished hk
    obtain ⟨c', hc', -, -, running | crashed⟩ := orderly.found mesh id key hk
    · rw [hc] at hc'
      cases hc'
      simp [Cell.isOver, running] at finished
    · exact (brokenOff_iff coherent).mpr ⟨key, c', hk, hc', crashed⟩

end Settled

/-- A mesh in which a cell panicked at an event and then in its recovery. -/
def brokenMesh : World (Resident Actor) :=
  (startingAt ⟨0, 0⟩).run [
    .openMesh "mesh" (.ofMillis 1000),
    .start ⟨0⟩ ⟨"a"⟩ (.custom {
      rules := [⟨some "boom", [.panic ⟨some "first"⟩]⟩], onRecover := .panic ⟨some "second"⟩ }),
    .emitNew ⟨0⟩ ⟨"a"⟩ "boom" .empty,
    .turn (.cell ⟨0⟩),
    .turn (.cell ⟨0⟩)]

/-- A cell that broke off stays listed, takes no event and cannot be started again. -/
theorem registry_exact_brokenMesh :
    brokenMesh.isSettled = true ∧ brokenMesh.hasCell ⟨0⟩ ⟨"a"⟩ = true ∧
      (∀ e, (brokenMesh.deliver ⟨0⟩ ⟨"a"⟩ e).1 = .error (.cellNotFound ⟨"a"⟩)) ∧
      brokenMesh.refusal? ⟨0⟩ ⟨"a"⟩ = some (.duplicateCell ⟨"a"⟩) := by
  have settled : brokenMesh.isSettled = true := rfl
  have exactly : brokenMesh.ListsExactly ⟨0⟩ ⟨"a"⟩ :=
    registry_exact ⟨0, 0⟩ (steps_run _ _) settled rfl rfl ⟨"a"⟩
  have broken : brokenMesh.BrokenOff ⟨0⟩ ⟨"a"⟩ :=
    ⟨⟨0⟩, _, .panicked "first", ⟨some "second"⟩, rfl, rfl, .tail _ (.tail _ (.head _))⟩
  exact ⟨settled, exactly.broken broken⟩

end World

end EventMesh
