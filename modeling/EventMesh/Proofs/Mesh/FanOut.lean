import EventMesh.Proofs.Mesh.Emission

/-!
# Fanning out

What one emission does. A name `Reaches` an incarnation if it is registered under it and its queue is
open. Subscribers that reach nobody are passed over. Main statement: in whatever world the steps of
loops and the deeds of anybody led to, a mesh that is held and not stopping puts an emission once at
the end of the queue of each incarnation that a subscriber reaches and touches no other, and any other
mesh refuses it and stays as it is (`emission_fans_out`).
-/

namespace EventMesh.World

open Function Time

variable {β : Type} {w : World β} {mesh : MeshId} {m : Mesh} {id : CellId} {j key : CellKey}

/-- Whether a name leads to an incarnation whose queue is open. -/
def Reaches (w : World β) (mesh : MeshId) (id : CellId) (j : CellKey) : Prop :=
  w.lookUp mesh id = some j ∧ (w.cells.get? j).any (·.isOpen) = true

/-- In a mesh that is not stopping events get where names reach. -/
theorem route_eq_ok_iff (hm : w.meshes.get? mesh = some m) (going : m.stopping = false) :
    w.route mesh id = .ok j ↔ w.Reaches mesh id j := by
  have taker : w.taker? m id = some j ↔ w.Reaches mesh id j := by
    rw [Reaches, lookUp_eq hm]
    exact Option.filter_eq_some_iff
  rw [← taker]
  simp only [route, ifOpen, hm, going, Bool.false_eq_true, if_false]
  cases w.taker? m id <;> simp

theorem mem_takers_iff (hm : w.meshes.get? mesh = some m) (going : m.stopping = false)
    (targets : List CellId) :
    j ∈ w.takers mesh targets ↔ ∃ id ∈ targets, w.Reaches mesh id j := by
  rw [mem_takers]
  exact exists_congr fun id => and_congr_right fun _ => route_eq_ok_iff hm going

/-! ### What else an emission may touch -/

theorem accept_eq (w : World β) (key : CellKey) (e : Event) :
    ∃ cells ready, w.accept key e = { w with cells, ready } := by
  unfold accept enlist
  split
  · exact ⟨_, w.ready, rfl⟩
  · exact ⟨_, _, rfl⟩

theorem deliver_eq (w : World β) (mesh : MeshId) (target : CellId) (e : Event) :
    ∃ cells ready, (w.deliver mesh target e).2 = { w with cells, ready } := by
  unfold deliver
  split
  · exact ⟨w.cells, w.ready, rfl⟩
  · exact accept_eq ..

theorem deliverAll_eq (w : World β) (mesh : MeshId) (targets : List CellId) (e : Event) :
    ∃ cells ready, targets.foldl (fun w target => (w.deliver mesh target e).2) w =
      { w with cells, ready } := by
  induction targets generalizing w with
  | nil => exact ⟨w.cells, w.ready, rfl⟩
  | cons t targets ih =>
    obtain ⟨cells, ready, first⟩ := w.deliver_eq mesh t e
    rw [List.foldl_cons, first]
    exact ih _

/-! ### Emissions -/

/-- What an emission through the outlet of a cell does, by the state that its mesh is in. -/
structure FansOut (w : World β) (mesh : MeshId) (key : CellKey) (id : CellId) (generation : Nat)
    (e : Event) : Prop where
  /-- Nobody is a subscriber twice. -/
  nodup : (w.subscribers mesh id).Nodup
  /-- A mesh that is held and not stopping takes the emission, whoever it gets to. -/
  done : ∀ m, w.meshes.get? mesh = some m → m.isAlive = true → m.stopping = false →
    (w.emit (.cell mesh key id generation) e).1 = .ok ()
  /-- Then whatever incarnation a subscriber reaches has the event at the end of its queue, once. -/
  taken : ∀ m, w.meshes.get? mesh = some m → m.isAlive = true → m.stopping = false →
    ∀ s ∈ w.subscribers mesh id, ∀ j c, w.Reaches mesh s j → w.cells.get? j = some c →
      (w.emit (.cell mesh key id generation) e).2.cells.get? j = some (c.accept e)
  /-- Whoever no subscriber reaches is as before. -/
  spared : ∀ j, (∀ s ∈ w.subscribers mesh id, ¬ w.Reaches mesh s j) →
    (w.emit (.cell mesh key id generation) e).2.cells.get? j = w.cells.get? j
  /-- Nothing changes but queues, and who is to have a turn for them. -/
  confined : ∃ cells ready,
    (w.emit (.cell mesh key id generation) e).2 = { w with cells, ready }
  /-- A mesh that is stopping refuses the emission, and nothing changes. -/
  stopping : ∀ m, w.meshes.get? mesh = some m → m.isAlive = true → m.stopping = true →
    w.emit (.cell mesh key id generation) e =
      (.error (.emitFailed "environment is shutting down"), w)
  /-- So does one that nobody holds any more. -/
  dropped : w.isAlive mesh = false →
    w.emit (.cell mesh key id generation) e = (.error (.emitFailed "environment dropped"), w)

theorem emit_of_dropped (dropped : w.isAlive mesh = false) (key : CellKey) (id : CellId)
    (generation : Nat) (e : Event) : w.emit (.cell mesh key id generation) e =
      (.error (.emitFailed "environment dropped"), w) := by
  simp [emit, throughMesh, dropped]

theorem emit_of_held (held : w.isAlive mesh = true) (key : CellKey) (id : CellId)
    (generation : Nat) (e : Event) : w.emit (.cell mesh key id generation) e =
      ((w.publish mesh id e).1.mapError fun err => .emitFailed err.message,
        (w.publish mesh id e).2) := by
  simp [emit, throughMesh, held]

theorem isAlive_eq (hm : w.meshes.get? mesh = some m) : w.isAlive mesh = m.isAlive := by
  simp [isAlive, hm]

/-- Emissions fan out wherever names are in order and nobody is a subscriber twice. -/
theorem Orderly.fansOut (orderly : w.Orderly) (nodup : (w.subscribers mesh id).Nodup)
    (key : CellKey) (generation : Nat) (e : Event) : w.FansOut mesh key id generation e := by
  have dropped : w.isAlive mesh = false → w.emit (.cell mesh key id generation) e =
      (.error (.emitFailed "environment dropped"), w) := fun h => emit_of_dropped h ..
  have stopping : ∀ m, w.meshes.get? mesh = some m → m.isAlive = true → m.stopping = true →
      w.emit (.cell mesh key id generation) e =
        (.error (.emitFailed "environment is shutting down"), w) := by
    intro m hm held closed
    have refused : w.publish mesh id e = (.error .shuttingDown, w) := by
      refine publish_of_stopping (fun m' hm' => ?_) id e
      rw [hm] at hm'
      cases hm'
      exact closed
    rw [emit_of_held (by rw [isAlive_eq hm, held]), refused]
    rfl
  have going_on : ∀ m, w.meshes.get? mesh = some m → m.isAlive = true → m.stopping = false →
      w.emit (.cell mesh key id generation) e = (.ok (), (w.publish mesh id e).2) := by
    intro m hm held going
    rw [emit_of_held (by rw [isAlive_eq hm, held]), publish_of_open hm going]
    rfl
  have states : w.isAlive mesh = false ∨ ∃ m, w.meshes.get? mesh = some m ∧ m.isAlive = true := by
    cases hm : w.meshes.get? mesh with
    | none => exact Or.inl (by simp [isAlive, hm])
    | some m =>
      rw [isAlive_eq hm]
      cases held : m.isAlive with
      | false => exact Or.inl rfl
      | true => exact Or.inr ⟨m, rfl, held⟩
  refine ⟨nodup, ?_, ?_, ?_, ?_, stopping, dropped⟩
  · intro m hm held going
    rw [going_on m hm held going]
  · intro m hm held going s hs j c reaches hc
    have taker : j ∈ w.takers mesh (w.subscribers mesh id) :=
      (mem_takers_iff hm going _).mpr ⟨s, hs, reaches⟩
    rw [going_on m hm held going, get?_publish orderly nodup, if_pos taker, hc]
    rfl
  · intro j unreached
    rcases states with gone | ⟨m, hm, held⟩
    · rw [dropped gone]
    · cases going : m.stopping with
      | true => rw [stopping m hm held going]
      | false =>
        have no_taker : j ∉ w.takers mesh (w.subscribers mesh id) := by
          rw [mem_takers_iff hm going]
          rintro ⟨s, hs, reaches⟩
          exact unreached s hs reaches
        rw [going_on m hm held going, get?_publish orderly nodup, if_neg no_taker]
  · rcases states with gone | ⟨m, hm, held⟩
    · exact ⟨w.cells, w.ready, by rw [dropped gone]⟩
    · cases going : m.stopping with
      | true => exact ⟨w.cells, w.ready, by rw [stopping m hm held going]⟩
      | false =>
        rw [going_on m hm held going, publish_of_open hm going]
        exact deliverAll_eq ..

/-- **Emissions fan out, once to each.** Whatever steps of loops and deeds of anybody led to a world,
calls in progress among them, an emission through the outlet of any incarnation is appended to the
queue of each incarnation that a subscriber of its name reaches, to each once, and to no other;
subscribers that reach nobody are passed over, and the emission succeeds even if all are. If the mesh
is stopping or nobody holds it, the emission fails and changes nothing. -/
theorem emission_fans_out (wall : Wall) {hand : CellKey → Hand}
    (h : Steps (startingAt wall) atRest w hand) (mesh : MeshId) (key : CellKey) (id : CellId)
    (generation : Nat) (e : Event) : w.FansOut mesh key id generation e := by
  obtain ⟨notes, chronicle⟩ : ∃ notes, Chronicle mesh (startingAt wall) notes w :=
    exists_chronicle h
  obtain ⟨orderly, tell⟩ := tell_chronicle chronicle
  exact orderly.fansOut ((tell.ordered id).imp Note.Earlier.ne) key generation e

/-- A cell that is its own subscriber, between one that broke off and one that runs. -/
def crowd : World (Resident Actor) :=
  (startingAt ⟨0, 0⟩).run [
    .openMesh "mesh" (.ofMillis 1000),
    .start ⟨0⟩ ⟨"a"⟩ (.custom { rules := [] }),
    .start ⟨0⟩ ⟨"b"⟩ (.custom {
      rules := [⟨some "boom", [.panic ⟨some "first"⟩]⟩], onRecover := .panic ⟨some "second"⟩ }),
    .start ⟨0⟩ ⟨"c"⟩ (.custom { rules := [] }),
    .subscribe ⟨0⟩ ⟨"a"⟩ [⟨"a"⟩, ⟨"b"⟩, ⟨"c"⟩],
    .emitNew ⟨0⟩ ⟨"b"⟩ "boom" .empty,
    .turn (.cell ⟨1⟩),
    .turn (.cell ⟨1⟩)]

/-- What it has to say. -/
def rumor : Event := ⟨.ofSerial 1, "rumor", .mk 1 [(Key.default, .int 7)], none, ⟨0, 0⟩⟩

/-- What it emits gets to itself, and past the one that broke off. -/
theorem emission_fans_out_crowd :
    (crowd.emit (.cell ⟨0⟩ ⟨0⟩ ⟨"a"⟩ 1) rumor).1 = .ok () ∧
    [⟨0⟩, ⟨1⟩, ⟨2⟩].map (fun j =>
      ((crowd.emit (.cell ⟨0⟩ ⟨0⟩ ⟨"a"⟩ 1) rumor).2.cells.get? j).map (·.queue)) =
        [some [rumor], some [], some [rumor]] := by
  have fans : crowd.FansOut ⟨0⟩ ⟨0⟩ ⟨"a"⟩ 1 rumor :=
    emission_fans_out ⟨0, 0⟩ (steps_run _ _) ⟨0⟩ ⟨0⟩ ⟨"a"⟩ 1 rumor
  obtain ⟨m, hm, held, going⟩ : ∃ m, crowd.meshes.get? ⟨0⟩ = some m ∧ m.isAlive = true ∧
      m.stopping = false := ⟨_, rfl, rfl, rfl⟩
  have first := fans.taken m hm held going ⟨"a"⟩ (.head _) ⟨0⟩ _ ⟨rfl, rfl⟩ rfl
  have last := fans.taken m hm held going ⟨"c"⟩ (.tail _ (.tail _ (.head _))) ⟨2⟩ _ ⟨rfl, rfl⟩ rfl
  have shut : (crowd.cells.get? ⟨1⟩).any (·.isOpen) = false := rfl
  have broken := fans.spared ⟨1⟩ fun s _ reaches => by
    rw [Reaches, shut] at reaches
    cases reaches.2
  refine ⟨fans.done m hm held going, ?_⟩
  rw [List.map_cons, List.map_cons, List.map_cons, first, broken, last]
  rfl

end EventMesh.World
