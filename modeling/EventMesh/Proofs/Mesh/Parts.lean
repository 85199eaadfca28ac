import EventMesh.Proofs.Mesh.Deed

/-!
# Wholes and their parts

What happens in a world in one go is made of smaller parts, and a relation between worlds that holds
over the parts holds over the whole. Three structures say which parts there are: `Carries` for sending
events, `Clears` for taking cells and routes out of meshes, `Polls` for the turn of a task. Whoever
shows the parts of a relation has the wholes: emissions (`Carries.emit`, `Carries.emitTo`), changes of
registries (`Clears.release`, `Clears.stopCell`) and turns (`Polls.stepTask`).
-/

namespace EventMesh.World

variable {β : Type}

/-! ### One after the other -/

/-- A relation between worlds that holds over changes one after the other. -/
structure Composes (R : World β → World β → Prop) : Prop where
  refl : ∀ w, R w w
  trans : ∀ {w w₁ w₂}, R w w₁ → R w₁ w₂ → R w w₂

section Composes

variable {R : World β → World β → Prop}

theorem Composes.foldl (composes : Composes R) {α : Type} {f : World β → α → World β}
    (h : ∀ w a, R w (f w a)) (as : List α) (w : World β) : R w (as.foldl f w) := by
  induction as generalizing w with
  | nil => exact composes.refl w
  | cons a as ih => exact composes.trans (h w a) (ih _)

theorem Composes.throughMesh (composes : Composes R) (w : World β) (mesh : MeshId)
    {routed : World β → Except MeshError Unit × World β} (h : ∀ w, R w (routed w).2) :
    R w (w.throughMesh mesh routed).2 := by
  unfold World.throughMesh
  split
  · exact h w
  · exact composes.refl w

end Composes

/-! ### Sending events -/

/-- An event is refused, or accepted by the cell that the name leads to. -/
theorem deliver_cases (w : World β) (mesh : MeshId) (target : CellId) (e : Event) :
    (∃ err, w.route mesh target = .error err ∧ w.deliver mesh target e = (.error err, w)) ∨
      ∃ key, w.route mesh target = .ok key ∧ w.deliver mesh target e = (.ok (), w.accept key e) := by
  cases h : w.route mesh target with
  | error err => exact Or.inl ⟨err, rfl, by simp only [deliver, h]⟩
  | ok key => exact Or.inr ⟨key, rfl, by simp only [deliver, h]⟩

/-- A relation that holds over the acceptance of an event of some kind, and over what benches
record. -/
structure Carries (R : World β → World β → Prop) (kind : Event → Prop) : Prop
    extends Composes R where
  accept : ∀ w {mesh : MeshId} {target : CellId} {key : CellKey}, w.route mesh target = .ok key →
    ∀ e, kind e → R w (w.accept key e)
  record : ∀ w bench f, R w (w.record bench f).2

namespace Carries

variable {R : World β → World β → Prop} {kind : Event → Prop} {e : Event}

theorem deliver (carries : Carries R kind) (w : World β) (mesh : MeshId) (target : CellId)
    (he : kind e) : R w (w.deliver mesh target e).2 := by
  rcases deliver_cases w mesh target e with ⟨err, -, refused⟩ | ⟨key, leads, sent⟩
  · rw [refused]
    exact carries.refl w
  · rw [sent]
    exact carries.accept w leads e he

theorem deliverTo (carries : Carries R kind) (w : World β) (key : CellKey) (he : kind e) :
    R w (w.deliverTo key e) := by
  rcases deliverTo_cases w key e with same | ⟨c, -, -, leads, sent⟩
  · rw [same]
    exact carries.refl w
  · rw [sent]
    exact carries.accept w leads e he

theorem publish (carries : Carries R kind) (w : World β) (mesh : MeshId) (emitter : CellId)
    (he : kind e) : R w (w.publish mesh emitter e).2 := by
  unfold World.publish
  split
  · exact carries.refl w
  · exact carries.foldl (fun w target => carries.deliver w mesh target he) _ w

theorem emit (carries : Carries R kind) (w : World β) (outlet : Outlet) (he : kind e) :
    R w (w.emit outlet e).2 := by
  cases outlet with
  | cell mesh key id generation =>
    exact carries.throughMesh w mesh fun w => carries.publish w mesh id he
  | bench bench id => exact carries.record w bench _

theorem emitTo (carries : Carries R kind) (w : World β) (outlet : Outlet) (target : CellId)
    (he : kind e) : R w (w.emitTo outlet target e).2 := by
  cases outlet with
  | cell mesh key id generation =>
    exact carries.throughMesh w mesh fun w => carries.deliver w mesh target he
  | bench bench id => exact carries.record w bench _

end Carries

/-! ### Registries and routes -/

/-- A relation that holds over changes of a mesh that give it no holder, over the end of a queue, and
over jobs that get ready. -/
structure Clears (R : World β → World β → Prop) : Prop extends Composes R where
  modifyMesh : ∀ w mesh {f : Mesh → Mesh}, (∀ m, (f m).holders ≤ m.holders) →
    R w (w.modifyMesh mesh f)
  close : ∀ w key, R w (w.modifyCell key (·.close))
  enlist : ∀ w j, R w (w.enlist j)

namespace Clears

variable {R : World β → World β → Prop}

theorem wake (clears : Clears R) (w : World β) : R w w.wake :=
  clears.foldl (fun w t => clears.enlist w (.task t)) _ w

/-- A change of a mesh that leaves it to its holders. -/
theorem sameHolders (clears : Clears R) (w : World β) (mesh : MeshId) {f : Mesh → Mesh}
    (h : ∀ m, (f m).holders = m.holders := by intro; rfl) : R w (w.modifyMesh mesh f) :=
  clears.modifyMesh w mesh fun m => Nat.le_of_eq (h m)

theorem drain (clears : Clears R) (w : World β) (key : CellKey) : R w (w.drain key) :=
  clears.trans (clears.close w key) (clears.enlist _ _)

theorem vacate (clears : Clears R) (w : World β) (mesh : MeshId) : R w (w.vacate mesh) := by
  unfold World.vacate
  split
  · exact clears.refl w
  · exact clears.trans (clears.sameHolders w mesh) (clears.foldl clears.drain _ _)

theorem beginShutdown (clears : Clears R) (w : World β) (mesh : MeshId) :
    R w (w.beginShutdown mesh).2 :=
  clears.trans (clears.sameHolders w mesh) (clears.vacate _ mesh)

theorem release (clears : Clears R) (w : World β) (mesh : MeshId) : R w (w.release mesh) := by
  have fewer : R w (w.modifyMesh mesh fun m => { m with holders := m.holders - 1 }) :=
    clears.modifyMesh w mesh fun m => Nat.sub_le _ _
  unfold World.release
  dsimp only
  split
  · exact clears.trans fewer (clears.vacate _ mesh)
  · exact fewer

theorem stopCell (clears : Clears R) (w : World β) (mesh : MeshId) (id : CellId) :
    R w (w.stopCell mesh id).2 := by
  unfold World.stopCell
  split
  · exact clears.refl w
  · exact clears.trans (clears.sameHolders w mesh) (clears.drain _ _)

theorem subscribe (clears : Clears R) (w : World β) (mesh : MeshId) (emitter : CellId)
    (ids : List CellId) : R w (w.subscribe mesh emitter ids).2 := by
  unfold World.subscribe
  split
  · exact clears.refl w
  · exact clears.sameHolders w mesh

theorem unsubscribe (clears : Clears R) (w : World β) (mesh : MeshId) (emitter : CellId)
    (ids : List CellId) : R w (w.unsubscribe mesh emitter ids).2 := by
  unfold World.unsubscribe
  split
  · exact clears.sameHolders w mesh
  · exact clears.refl w

theorem deregister (clears : Clears R) (w : World β) (key : CellKey) : R w (w.deregister key) := by
  unfold World.deregister
  split
  · exact clears.refl w
  · refine clears.sameHolders w _ fun m => ?_
    split <;> rfl

end Clears

/-! ### Requests -/

/-- The event of a request that begins now, with the waiter made for it, and the serial numbers that
are left. -/
def requestEvent (w : World β) (topic : String) (values : Source) : Event × Serials :=
  StateT.run (m := Id) (do
    let p ← Serials.applySource (← Serials.makePayload values)
      (.pairs [(Key.waiter, .waiter w.waiters.next)])
    Event.make topic (.payload p) none w.clock.wall) w.serials

/-- The world in which the event of a request is made and not sent yet. -/
def withRequest (w : World β) (topic : String) (values : Source) : World β :=
  { w.addWaiter.2 with serials := (w.requestEvent topic values).2 }

/-- A request begins without a cell that takes its event, or it begins to wait for its waiter. -/
theorem beginRequest_cases (w : World β) (t : TaskId) (errand : Errand) (mesh : MeshId)
    (target : CellId) (topic : String) (values : Source) (ctx : Context) :
    (∃ err, w.route mesh target = .error err ∧
      w.beginRequest t errand mesh target topic values ctx =
        (w.withRequest topic values).conclude t (errand.reportResponse (.error err))) ∨
    ∃ key, w.route mesh target = .ok key ∧
      w.beginRequest t errand mesh target topic values ctx =
        ((w.withRequest topic values).accept key (w.requestEvent topic values).1).beginWait t errand
          (.waiter w.waiters.next) ctx := by
  rcases deliver_cases (w.withRequest topic values) mesh target (w.requestEvent topic values).1 with
    ⟨err, unrouted, unsent⟩ | ⟨key, routed, sent⟩
  · refine Or.inl ⟨err, unrouted, ?_⟩
    unfold beginRequest
    dsimp only
    split
    · rename_i delivered
      cases delivered.symm.trans unsent
      rfl
    · rename_i delivered
      cases delivered.symm.trans unsent
  · refine Or.inr ⟨key, routed, ?_⟩
    unfold beginRequest
    dsimp only
    split
    · rename_i delivered
      cases delivered.symm.trans sent
    · rename_i delivered
      cases delivered.symm.trans sent
      rfl

/-- The world in which someone more waits for the flag of a key. -/
def holdFlag (w : World β) (scene : SceneId) (key : String) : World β :=
  { w.addFlag.2 with scenes := w.scenes.modify scene (·.hold key w.flags.next) }

/-! ### Turns of tasks -/

/-- A relation that holds over all that a task does in its turn but to send events of another kind. -/
structure Polls (R : World β → World β → Prop) (kind : Event → Prop) : Prop
    extends Carries R kind where
  dismiss : ∀ w t, R w (w.dismiss (.task t))
  modifyTask : ∀ w t {f : Task → Task}, (∀ task, (f task).errand = task.errand) →
    R w { w with tasks := w.tasks.modify t f }
  holdFlag : ∀ w scene key, R w (w.holdFlag scene key)
  unholdFlag : ∀ w scene key, R w { w with scenes := w.scenes.modify scene (·.unhold key) }
  request : ∀ w topic values, R w (w.withRequest topic values)
  release : ∀ w mesh, R w (w.release mesh)
  beginShutdown : ∀ w mesh, R w (w.beginShutdown mesh).2

/-- Whether the event that a task with the errand sends in its first turn is of a kind. -/
def Asks (w : World β) (kind : Event → Prop) : Errand → Prop
  | .request _ _ topic values _ => kind (w.requestEvent topic values).1
  | .tally .. => kind (w.requestEvent Topic.counterResults .empty).1
  | .wait .. | .waitFlag .. | .watch _ | .sleep _ | .remind .. | .shutdown _ => True

theorem asks_any (w : World β) (errand : Errand) : w.Asks (fun _ => True) errand := by
  cases errand <;> trivial

namespace Polls

variable {R : World β → World β → Prop} {kind : Event → Prop} {task : Task}

theorem letGo (polls : Polls R kind) (w : World β) (task : Task) : R w (w.letGo task) := by
  unfold World.letGo
  split
  · split
    · exact polls.unholdFlag w _ _
    · exact polls.refl w
  · exact polls.release w _
  · exact polls.release w _
  · exact polls.release w _
  all_goals exact polls.refl w

theorem endTask (polls : Polls R kind) (w : World β) (t : TaskId) (last : Progress) :
    R w (w.endTask t last) := by
  unfold World.endTask
  split
  · exact polls.refl w
  · have ending := polls.modifyTask w t
      (f := fun task => { task with progress := last, seen := w.waiters }) fun _ => rfl
    exact polls.trans ending (polls.letGo _ _)

theorem conclude (polls : Polls R kind) (w : World β) (t : TaskId) (report : Report) :
    R w (w.conclude t report) :=
  polls.endTask w t _

theorem setProgress (polls : Polls R kind) (w : World β) (t : TaskId) (progress : Progress) :
    R w (w.setProgress t progress) :=
  polls.modifyTask w t fun _ => rfl

theorem resumeWait (polls : Polls R kind) (w : World β) (t : TaskId) (errand : Errand) (slot : Slot)
    (ctx : Context) : R w (w.resumeWait t errand slot ctx) := by
  unfold World.resumeWait
  split
  · exact polls.refl w
  · exact polls.conclude w t _

theorem beginWait (polls : Polls R kind) (w : World β) (t : TaskId) (errand : Errand) (slot : Slot)
    (ctx : Context) : R w (w.beginWait t errand slot ctx) := by
  have noting := polls.setProgress w t (.waiting slot ctx)
  unfold World.beginWait
  dsimp only
  split
  · exact polls.trans noting (polls.conclude _ t _)
  · exact polls.trans noting (polls.resumeWait _ t errand slot ctx)

theorem beginRequest (polls : Polls R kind) (w : World β) (t : TaskId) (errand : Errand)
    (mesh : MeshId) (target : CellId) {topic : String} {values : Source} (ctx : Context)
    (h : kind (w.requestEvent topic values).1) :
    R w (w.beginRequest t errand mesh target topic values ctx) := by
  have making := polls.request w topic values
  rcases beginRequest_cases w t errand mesh target topic values ctx with
    ⟨err, -, began⟩ | ⟨key, leads, began⟩
  · rw [began]
    exact polls.trans making (polls.conclude _ t _)
  · rw [began]
    exact polls.trans (polls.trans making (polls.accept (w.withRequest topic values) leads _ h))
      (polls.beginWait _ t errand _ ctx)

theorem resume (polls : Polls R kind) (w : World β) (t : TaskId)
    (reminds : ∀ {key r delay e}, task.errand = .remind key r delay e → kind e) :
    R w (w.resume t task) := by
  unfold World.resume
  split
  · exact polls.refl w
  · exact polls.refl w
  · exact polls.refl w
  · exact polls.resumeWait w t _ _ _
  · split
    · exact polls.refl w
    · exact polls.conclude w t _
  · split
    · split
      · rename_i errand
        split
        · exact polls.conclude w t _
        · exact polls.trans (polls.deliverTo w _ (reminds errand)) (polls.conclude _ t _)
      · exact polls.conclude w t _
    · exact polls.refl w
  · split
    · exact polls.conclude w t _
    · exact polls.refl w

theorem continueAs (polls : Polls R kind) (w : World β) (t : TaskId)
    (reminds : ∀ {key r delay e}, task.errand = .remind key r delay e → kind e)
    (progress : Progress) : R w (w.continueAs t task progress) :=
  polls.trans (polls.setProgress w t progress) (polls.resume _ t reminds)

theorem begin (polls : Polls R kind) (w : World β) (t : TaskId)
    (reminds : ∀ {key r delay e}, task.errand = .remind key r delay e → kind e)
    (asks : w.Asks kind task.errand) : R w (w.begin t task) := by
  unfold World.begin
  split
  · exact polls.beginWait w t _ _ _
  · split
    · exact polls.endTask w t _
    · exact polls.trans (polls.holdFlag w _ _) (polls.beginWait _ t _ _ _)
  · rename_i errand
    rw [errand] at asks
    exact polls.beginRequest w t _ _ _ _ asks
  · rename_i errand
    rw [errand] at asks
    exact polls.beginRequest w t _ _ _ _ asks
  · exact polls.continueAs w t reminds _
  · exact polls.continueAs w t reminds _
  · exact polls.continueAs w t reminds _
  · exact polls.trans (polls.beginShutdown w _) (polls.continueAs _ t reminds _)

/-- **The turn of a task.** What it may send in its first turn has to be looked at then only. -/
theorem stepTask (polls : Polls R kind) (w : World β) (t : TaskId)
    (reminds : ∀ {task}, w.tasks.get? t = some task →
      ∀ {key r delay e}, task.errand = .remind key r delay e → kind e)
    (asks : ∀ {task}, w.tasks.get? t = some task → task.isOver = false → task.doomed = false →
      task.isBegun = false → w.Asks kind task.errand) : R w (w.stepTask t) := by
  refine polls.trans (polls.dismiss w t) ?_
  unfold World.stepTask
  dsimp only
  split
  · exact polls.refl _
  · rename_i task at_
    split
    · exact polls.refl _
    · rename_i live
      split
      · exact polls.endTask _ t _
      · rename_i kept
        split
        · exact polls.resume _ t (reminds at_)
        · rename_i fresh
          have first := asks at_ (Bool.eq_false_iff.mpr live) (Bool.eq_false_iff.mpr kept)
            (Bool.eq_false_iff.mpr fresh)
          exact polls.begin _ t (reminds at_) first

end Polls

end EventMesh.World
