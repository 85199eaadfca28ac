import EventMesh.Proofs.Mesh.Delivery
import EventMesh.Proofs.Mesh.Routes

/-!
# Emissions

Whom an emission reaches. A `Roll` keeps, beside a sequence of steps, the subscriptions that were made
and the incarnation that each was made to. Whoever is listed as a subscriber of a name subscribed to
the very incarnation that is registered under it (`rolled_roll`), and an emission enters just the
queues that the subscribers lead to, each once (`acceptedBy_publish`). Routes have no memory of
incarnations beyond the one that is registered: main statement: an emission keeps to those who
subscribed to the emitting incarnation just as long as no other one is registered under its name, and
goes to the subscribers of its successor if there is one (`emissions_follow_the_name`).
-/

namespace EventMesh

/-- A subscription as it was made: from an incarnation, by an incarnation. -/
structure Join where
  emitter : CellKey
  subscriber : CellKey

namespace World

open Function Time

variable {β : Type}

/-! ### Where events enter -/

section Entering

variable {w : World β} {mesh : MeshId}

/-- Names lead where they led after an event was accepted. -/
theorem route_accept (w : World β) (key : CellKey) (e : Event) (mesh : MeshId) (target : CellId) :
    (w.accept key e).route mesh target = w.route mesh target := by
  have open_as_before : ∀ j, ((w.accept key e).cells.get? j).any (·.isOpen) =
      (w.cells.get? j).any (·.isOpen) := by
    intro j
    rw [get?_accept]
    split
    · cases w.cells.get? j <;> rfl
    · rfl
  have meshes : (w.accept key e).meshes = w.meshes := enlist_meshes _ _
  simp only [route, ifOpen, taker?, meshes, open_as_before]

theorem route_deliver (w : World β) (mesh : MeshId) (target : CellId) (e : Event) (j : MeshId)
    (i : CellId) : (w.deliver mesh target e).2.route j i = w.route j i := by
  unfold deliver
  split
  · rfl
  · exact route_accept ..

theorem Orderly.deliver (h : w.Orderly) (mesh : MeshId) (target : CellId) (e : Event) :
    (w.deliver mesh target e).2.Orderly := by
  unfold World.deliver
  split
  · exact h
  · rename_i leads
    have deed : Deed 0 w (w.accept _ e) := .accept e leads
    exact orderly_deed deed h

/-- Names that lead to one incarnation are one name. -/
theorem Orderly.one_target (h : w.Orderly) {s t : CellId} {key : CellKey}
    (hs : w.route mesh s = .ok key) (ht : w.route mesh t = .ok key) : s = t := by
  obtain ⟨m, -, hm, -, hks, -⟩ := route_ok hs
  obtain ⟨m', -, hm', -, hkt, -⟩ := route_ok ht
  rw [← lookUp_eq hm] at hks
  rw [← lookUp_eq hm'] at hkt
  exact (h.one_name hks hkt).2

/-- The incarnations that several names lead to. -/
def takers (w : World β) (mesh : MeshId) (targets : List CellId) : List CellKey :=
  targets.filterMap fun target => (w.route mesh target).toOption

theorem mem_takers {targets : List CellId} {key : CellKey} :
    key ∈ w.takers mesh targets ↔ ∃ target ∈ targets, w.route mesh target = .ok key := by
  unfold takers
  rw [List.mem_filterMap]
  refine exists_congr fun target => and_congr_right fun _ => ?_
  cases w.route mesh target <;> simp [Except.toOption]

theorem get?_deliver (w : World β) (mesh : MeshId) (target : CellId) (e : Event) (j : CellKey) :
    (w.deliver mesh target e).2.cells.get? j =
      if j ∈ w.takers mesh [target] then (w.cells.get? j).map (·.accept e) else w.cells.get? j := by
  unfold World.deliver takers
  cases leads : w.route mesh target with
  | error err => simp [leads, Except.toOption]
  | ok key => simp [leads, Except.toOption, get?_accept, eq_comm]

/-- An event that is sent to several cells is accepted once by each that its name leads to, and
changes no other. -/
theorem get?_deliverAll (h : w.Orderly) {targets : List CellId} (nodup : targets.Nodup)
    (e : Event) (j : CellKey) :
    (targets.foldl (fun w target => (w.deliver mesh target e).2) w).cells.get? j =
      if j ∈ w.takers mesh targets then (w.cells.get? j).map (·.accept e) else w.cells.get? j := by
  induction targets generalizing w with
  | nil => simp [takers]
  | cons t targets ih =>
    obtain ⟨fresh, rest⟩ := List.nodup_cons.mp nodup
    have as_before : (w.deliver mesh t e).2.takers mesh targets = w.takers mesh targets := by
      simp only [takers, route_deliver]
    rw [List.foldl_cons, ih (h.deliver mesh t e) rest, get?_deliver, as_before]
    by_cases leads : w.route mesh t = .ok j
    · have nobody_else : j ∉ w.takers mesh targets := by
        intro also
        obtain ⟨s, hs, leads'⟩ := mem_takers.mp also
        rw [h.one_target leads' leads] at hs
        exact fresh hs
      simp [mem_takers.mpr ⟨t, List.mem_cons_self, leads⟩, nobody_else]
    · have elsewhere : j ∉ w.takers mesh [t] := by simpa [mem_takers] using leads
      have same : j ∈ w.takers mesh (t :: targets) ↔ j ∈ w.takers mesh targets := by
        simp [mem_takers, leads]
      simp only [elsewhere, same, if_false]

/-- A mesh that is not stopping passes an emission on to all subscribers. -/
theorem publish_of_open {m : Mesh} (hm : w.meshes.get? mesh = some m) (going : m.stopping = false)
    (emitter : CellId) (e : Event) : w.publish mesh emitter e = (.ok (),
      (w.subscribers mesh emitter).foldl (fun w target => (w.deliver mesh target e).2) w) := by
  simp only [publish, ifOpen, hm, going, Bool.false_eq_true, if_false, subscribers_eq hm]

/-- A mesh that is stopping, or was never opened, refuses an emission. -/
theorem publish_of_stopping (closed : ∀ m, w.meshes.get? mesh = some m → m.stopping = true)
    (emitter : CellId) (e : Event) : w.publish mesh emitter e = (.error .shuttingDown, w) := by
  simp only [publish, ifOpen]
  cases hm : w.meshes.get? mesh with
  | none => rfl
  | some m => simp [closed m hm]

/-- Nobody takes what is sent in a mesh that is stopping. -/
theorem takers_of_stopping (closed : ∀ m, w.meshes.get? mesh = some m → m.stopping = true)
    (targets : List CellId) : w.takers mesh targets = [] := by
  refine List.eq_nil_iff_forall_not_mem.mpr fun j hj => ?_
  obtain ⟨s, -, leads⟩ := mem_takers.mp hj
  obtain ⟨m, -, hm, going, -⟩ := route_ok leads
  rw [closed m hm] at going
  cases going

/-- An emission is accepted by whom the subscribers of its name lead to, once by each. -/
theorem get?_publish (h : w.Orderly) {emitter : CellId}
    (nodup : (w.subscribers mesh emitter).Nodup) (e : Event) (j : CellKey) :
    (w.publish mesh emitter e).2.cells.get? j =
      if j ∈ w.takers mesh (w.subscribers mesh emitter) then (w.cells.get? j).map (·.accept e)
      else w.cells.get? j := by
  by_cases closed : ∀ m, w.meshes.get? mesh = some m → m.stopping = true
  · rw [publish_of_stopping closed, takers_of_stopping closed]
    rfl
  · obtain ⟨m, hm, going⟩ : ∃ m, w.meshes.get? mesh = some m ∧ m.stopping = false := by
      simpa using closed
    rw [publish_of_open hm going]
    exact get?_deliverAll h nodup e j

/-- An emission enters the queues that the subscribers of its name lead to, each once. -/
theorem acceptedBy_publish (h : w.Orderly) {emitter : CellId}
    (nodup : (w.subscribers mesh emitter).Nodup) (e : Event) (j : CellKey) :
    (w.publish mesh emitter e).2.acceptedBy j = w.acceptedBy j ++
      if j ∈ w.takers mesh (w.subscribers mesh emitter) then [e] else [] := by
  unfold acceptedBy
  rw [get?_publish h nodup]
  split
  · rename_i taken
    obtain ⟨s, -, leads⟩ := mem_takers.mp taken
    obtain ⟨m, c, -, -, -, hc, -⟩ := route_ok leads
    rw [hc]
    rfl
  · exact (List.append_nil _).symm

end Entering

/-! ### Who subscribed to whom -/

/-- The subscriptions that a list of names makes to a name, if all of them are registered. -/
def joins (w : World β) (mesh : MeshId) (emitter : CellId) (ids : List CellId) : List Join :=
  ids.filterMap fun id => do return ⟨← w.lookUp mesh emitter, ← w.lookUp mesh id⟩

/-- Steps one after the other, with the subscriptions that were made, the newest first. -/
inductive Roll (mesh : MeshId) (w : World β) : List Join → World β → Prop
  | nil : Roll mesh w [] w
  | subscribe {log : List Join} {w₁ w₂ : World β} (h : Roll mesh w log w₁) {emitter : CellId}
      {ids : List CellId} (done : w₁.subscribe mesh emitter ids = (.ok (), w₂)) :
      Roll mesh w (w₁.joins mesh emitter ids ++ log) w₂
  | other {log : List Join} {w₁ w₂ : World β} {hand hand' : CellKey → Hand}
      (h : Roll mesh w log w₁) (s : Step w₁ hand w₂ hand')
      (plain : ∀ emitter ids, w₁.subscribe mesh emitter ids ≠ (.ok (), w₂)) : Roll mesh w log w₂

/-- Whoever is listed as a subscriber of a name subscribed, as the incarnation that it is, to the
incarnation that is registered under the name. -/
def Rolled (w : World β) (mesh : MeshId) (log : List Join) : Prop :=
  ∀ emitter id, id ∈ w.subscribers mesh emitter →
    ∃ key j, w.lookUp mesh emitter = some key ∧ w.lookUp mesh id = some j ∧ ⟨key, j⟩ ∈ log

section Rolls

variable {mesh : MeshId} {w w₁ w₂ : World β} {log : List Join} {hand hand' : CellKey → Hand}

theorem mem_joins {emitter id : CellId} {ids : List CellId} {key j : CellKey}
    (hkey : w.lookUp mesh emitter = some key) (hid : id ∈ ids) (hj : w.lookUp mesh id = some j) :
    ⟨key, j⟩ ∈ w.joins mesh emitter ids :=
  List.mem_filterMap.mpr ⟨id, hid, by simp [hkey, hj]⟩

theorem Roll.step (h : Roll mesh w log w₁) (s : Step w₁ hand w₂ hand') :
    ∃ log', Roll mesh w log' w₂ := by
  by_cases subscribing : ∃ emitter ids, w₁.subscribe mesh emitter ids = (.ok (), w₂)
  · obtain ⟨emitter, ids, done⟩ := subscribing
    exact ⟨_, h.subscribe done⟩
  · exact ⟨_, h.other s fun emitter ids done => subscribing ⟨emitter, ids, done⟩⟩

/-- Of every sequence of steps a roll can be kept. -/
theorem exists_roll (h : Steps w hand w₁ hand') : ∃ log, Roll mesh w log w₁ := by
  induction h with
  | refl => exact ⟨[], .nil⟩
  | tail _ s ih =>
    obtain ⟨log, before⟩ := ih
    exact before.step s

theorem Roll.exists_chronicle (h : Roll mesh w log w₁) : ∃ notes, Chronicle mesh w notes w₁ := by
  induction h with
  | nil => exact ⟨[], .nil⟩
  | subscribe _ done ih =>
    obtain ⟨notes, before⟩ := ih
    exact ⟨_, before.subscribe done⟩
  | other _ s _ ih =>
    obtain ⟨notes, before⟩ := ih
    exact before.step s

theorem Rolled.subscribe (h : w.Rolled mesh log) {emitter : CellId} {ids : List CellId}
    (done : w.subscribe mesh emitter ids = (.ok (), w₁)) :
    w₁.Rolled mesh (w.joins mesh emitter ids ++ log) := by
  rcases subscribe_cases w mesh emitter ids with ⟨err, refused⟩ | ⟨known, entered⟩
  · rw [refused] at done
    cases done
  · rw [entered] at done
    cases done
    have listed := known emitter List.mem_cons_self
    intro e id hid
    rw [lookUp_reroute, lookUp_reroute]
    rw [subscribers_reroute_of_known listed (addMissing · ids)] at hid
    have kept : id ∈ w.subscribers mesh e → ∃ key j, w.lookUp mesh e = some key ∧
        w.lookUp mesh id = some j ∧ ⟨key, j⟩ ∈ w.joins mesh emitter ids ++ log := by
      intro old
      obtain ⟨key, j, hkey, hj, noted⟩ := h e id old
      exact ⟨key, j, hkey, hj, List.mem_append_right _ noted⟩
    split at hid
    · rename_i both
      obtain ⟨-, rfl⟩ := both
      rcases (mem_addMissing ..).mp hid with old | new
      · exact kept old
      · obtain ⟨key, hkey⟩ := Option.isSome_iff_exists.mp listed
        obtain ⟨j, hj⟩ := Option.isSome_iff_exists.mp (known id (List.mem_cons_of_mem _ new))
        exact ⟨key, j, hkey, hj, List.mem_append_left _ (mem_joins hkey new hj)⟩
    · exact kept hid

/-- A step other than a subscription leaves nobody listed whose name, or whose emitter's name, leads
to another incarnation than before. -/
theorem Rolled.step (h : w.Rolled mesh log) (s : Step w hand w₁ hand')
    (plain : ∀ emitter ids, w.subscribe mesh emitter ids ≠ (.ok (), w₁)) : w₁.Rolled mesh log := by
  intro e id hid
  cases relisted_step s mesh with
  | kept names routes =>
    rw [routes] at hid
    rw [names, names]
    exact h e id hid
  | entered i key free names routes =>
    rw [routes] at hid
    obtain ⟨key, j, hkey, hj, noted⟩ := h e id hid
    have not_new : ∀ {i' k}, w.lookUp mesh i' = some k → i ≠ i' := by
      rintro i' k hk rfl
      rw [hk] at free
      cases free
    refine ⟨key, j, ?_, ?_, noted⟩
    · rw [names, if_neg (not_new hkey), hkey]
    · rw [names, if_neg (not_new hj), hj]
  | @left i _ named why names routes =>
    rw [routes] at hid
    split at hid
    · cases hid
    · rename_i he
      obtain ⟨hid, hne⟩ := List.mem_filter.mp hid
      obtain ⟨key, j, hkey, hj, noted⟩ := h e id hid
      have stays : i ≠ id := by
        rintro rfl
        simp at hne
      exact ⟨key, j, by rw [names, if_neg he, hkey], by rw [names, if_neg stays, hj], noted⟩
  | vacated why names routes =>
    rw [routes] at hid
    cases hid
  | subscribed emitter ids done => exact absurd done (plain emitter ids)
  | unsubscribed emitter ids done names routes =>
    rw [routes] at hid
    rw [names, names]
    split at hid
    · exact h e id (List.mem_filter.mp hid).1
    · exact h e id hid

theorem rolled_roll {wall : Wall} (h : Roll mesh (startingAt wall) log w) : w.Rolled mesh log := by
  induction h with
  | nil =>
    intro e id hid
    obtain ⟨known, -⟩ := (orderly_startingAt wall).routed mesh e id hid
    cases known
  | subscribe _ done ih => exact ih.subscribe done
  | other _ s plain ih => exact ih.step s plain

end Rolls

/-! ### Emissions -/

section Emissions

variable {w : World β} {key : CellKey} {c : Cell β} {log : List Join}

theorem acceptedBy_emit (h : w.Orderly) {mesh : MeshId} {id : CellId}
    (nodup : (w.subscribers mesh id).Nodup) (key : CellKey) (generation : Nat) (e : Event)
    (j : CellKey) : (w.emit (.cell mesh key id generation) e).2.acceptedBy j = w.acceptedBy j ++
      if w.isAlive mesh = true ∧ j ∈ w.takers mesh (w.subscribers mesh id) then [e] else [] := by
  unfold emit throughMesh
  by_cases held : w.isAlive mesh = true
  · simp [held, acceptedBy_publish h nodup]
  · simp [held]

/-- Where the emissions of an incarnation go, told by the subscriptions that were made. -/
structure EmitsByName (w : World β) (key : CellKey) (c : Cell β) (log : List Join) : Prop where
  /-- An emission enters the queues that the subscribers of the name lead to, each once, and no
  other. -/
  entered : ∀ e j, (w.emit (.cell c.mesh key c.id c.generation) e).2.acceptedBy j =
    w.acceptedBy j ++
      if w.isAlive c.mesh = true ∧ j ∈ w.takers c.mesh (w.subscribers c.mesh c.id) then [e] else []
  /-- While nobody is registered under the name it reaches nobody. -/
  unnamed : w.lookUp c.mesh c.id = none → w.takers c.mesh (w.subscribers c.mesh c.id) = []
  /-- While no other incarnation is registered under the name it reaches just incarnations that
  subscribed to the emitting one. -/
  isolated : (∀ k, w.lookUp c.mesh c.id = some k → k = key) →
    ∀ j ∈ w.takers c.mesh (w.subscribers c.mesh c.id), ⟨key, j⟩ ∈ log
  /-- Once another one is registered it goes to those that subscribed to that one. -/
  strayed : ∀ k, w.lookUp c.mesh c.id = some k → k ≠ key →
    ∀ j ∈ w.takers c.mesh (w.subscribers c.mesh c.id), ⟨k, j⟩ ∈ log

/-- **Emissions follow the name.** Whatever steps of loops and deeds of anybody led to a world, calls
in progress among them, an event that an incarnation emits there enters the queues of those who
subscribed to the incarnation that is registered under its name at that moment. So it keeps to those
who subscribed to the emitting incarnation itself unless its cell was stopped and started again
meanwhile: what a draining incarnation still emits then reaches the subscribers of its successor. -/
theorem emissions_follow_the_name (wall : Wall) (mesh : MeshId) :
    (∀ (log : List Join) (w : World β), Roll mesh (startingAt wall) log w →
      ∀ key c, w.cells.get? key = some c → c.mesh = mesh → w.EmitsByName key c log) ∧
    ∀ (w : World β) (hand : CellKey → Hand), Steps (startingAt wall) atRest w hand →
      ∃ log, Roll mesh (startingAt wall) log w := by
  refine ⟨?_, fun w hand h => exists_roll h⟩
  rintro log w h key c hc rfl
  obtain ⟨notes, chronicle⟩ := h.exists_chronicle
  obtain ⟨orderly, tell⟩ := tell_chronicle chronicle
  have nodup : (w.subscribers c.mesh c.id).Nodup := (tell.ordered c.id).imp Note.Earlier.ne
  have by_registered : ∀ k, w.lookUp c.mesh c.id = some k →
      ∀ j ∈ w.takers c.mesh (w.subscribers c.mesh c.id), ⟨k, j⟩ ∈ log := by
    intro k hk j hj
    obtain ⟨id, hid, leads⟩ := mem_takers.mp hj
    obtain ⟨k', j', hk', hj', noted⟩ := rolled_roll h c.id id hid
    obtain ⟨m, -, hm, -, named, -⟩ := route_ok leads
    rw [lookUp_eq hm, named] at hj'
    cases hj'
    rw [hk] at hk'
    cases hk'
    exact noted
  have unnamed : w.lookUp c.mesh c.id = none →
      w.takers c.mesh (w.subscribers c.mesh c.id) = [] := by
    intro nobody
    rw [(orderly.unrouted nobody).2]
    rfl
  refine ⟨acceptedBy_emit orderly nodup key c.generation, unnamed, ?_, ?_⟩
  · intro no_other j hj
    cases hk : w.lookUp c.mesh c.id with
    | none =>
      rw [unnamed hk] at hj
      cases hj
    | some k =>
      rw [no_other k hk] at hk
      exact by_registered key hk j hj
  · exact fun k hk _ => by_registered k hk

end Emissions

/-- A cell that was stopped with an event in its queue, which it echoes, and started again; the new
incarnation has a subscriber. -/
def overtaken : World (Resident Actor) :=
  (startingAt ⟨0, 0⟩).run [
    .openMesh "mesh" (.ofMillis 1000),
    .start ⟨0⟩ ⟨"a"⟩ (.custom { rules := [⟨none, [.echo]⟩] }),
    .emitNew ⟨0⟩ ⟨"a"⟩ "x" .empty,
    .stopCell ⟨0⟩ ⟨"a"⟩,
    .start ⟨0⟩ ⟨"a"⟩ (.custom { rules := [] }),
    .start ⟨0⟩ ⟨"b"⟩ (.custom { rules := [] }),
    .subscribe ⟨0⟩ ⟨"a"⟩ [⟨"b"⟩]]

/-- What the old incarnation still emits goes to the subscriber of the new one. -/
theorem emissions_follow_the_name_overtaken :
    (∃ log c, Roll ⟨0⟩ (startingAt ⟨0, 0⟩) log overtaken ∧
      overtaken.cells.get? ⟨0⟩ = some c ∧ c.phase = .draining ∧ overtaken.EmitsByName ⟨0⟩ c log ∧
      overtaken.lookUp ⟨0⟩ ⟨"a"⟩ = some ⟨1⟩ ∧
      overtaken.takers ⟨0⟩ (overtaken.subscribers ⟨0⟩ ⟨"a"⟩) = [⟨2⟩] ∧ ⟨⟨1⟩, ⟨2⟩⟩ ∈ log) ∧
    ((overtaken.turn (.cell ⟨0⟩)).acceptedBy ⟨2⟩).map (·.topic) = ["x"] := by
  refine ⟨?_, rfl⟩
  obtain ⟨by_name, kept⟩ := emissions_follow_the_name (β := Resident Actor) ⟨0, 0⟩ ⟨0⟩
  obtain ⟨log, roll⟩ := kept overtaken atRest (steps_run _ _)
  have known : ∃ c, overtaken.cells.get? ⟨0⟩ = some c ∧ c.mesh = ⟨0⟩ ∧ c.id = ⟨"a"⟩ ∧
      c.phase = .draining := ⟨_, rfl, rfl, rfl, rfl⟩
  obtain ⟨c, hc, hmesh, hid, draining⟩ := known
  have follows : overtaken.EmitsByName ⟨0⟩ c log := by_name log overtaken roll ⟨0⟩ c hc hmesh
  have successor : overtaken.lookUp ⟨0⟩ ⟨"a"⟩ = some ⟨1⟩ := rfl
  have taker : overtaken.takers ⟨0⟩ (overtaken.subscribers ⟨0⟩ ⟨"a"⟩) = [⟨2⟩] := rfl
  have strayed := follows.strayed ⟨1⟩ (by rw [hmesh, hid, successor]) (by decide) ⟨2⟩
  rw [hmesh, hid, taker] at strayed
  exact ⟨log, c, roll, hc, draining, follows, successor, taker, strayed List.mem_cons_self⟩

end World

end EventMesh
