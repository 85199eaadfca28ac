import EventMesh.Proofs.Wait.Poll
import EventMesh.Behavior.Resident

/-!
# Discretion

A waiter is known to those whom it was told to and to nobody else. What omits a waiter (`Payload.Omits`,
`Event.Omits`) does not mention it at any depth. A script is discreet about a waiter
(`Script.Discreet`) if it puts the waiter into no event and does not answer it, and a behavior is
discreet if all of its scripts are for as long as it is told of no event that mentions the waiter
(`Discretion`, `Discreet`). Main statements: what is made from parts that omit a waiter omits it
(`Source.Omits.new`, `omits_requestEvent`), and the ready-made behaviors are discreet about every
waiter (`discreet_counter`, `discreet_sceneKeeper`, `discreet_pair`).
-/

namespace EventMesh

open Time

variable {v : WaiterId}

/-! ### Values, payloads and events -/

mutual

/-- The value does not mention the waiter, at any depth. -/
def Value.Omits (v : WaiterId) : Value → Prop
  | .waiter w => w ≠ v
  | .payload p => Payload.Omits v p
  | .bool _ | .int _ | .float _ | .str _ | .time _ | .duration _ | .strings _ | .foreign _ => True

/-- No value of the payload mentions the waiter. -/
def Payload.Omits (v : WaiterId) : Payload → Prop
  | .mk _ es => EntriesOmit v es

def EntriesOmit (v : WaiterId) : List (String × Value) → Prop
  | [] => True
  | (_, x) :: rest => Value.Omits v x ∧ EntriesOmit v rest

end

theorem entriesOmit_iff {es : List (String × Value)} :
    EntriesOmit v es ↔ ∀ q ∈ es, q.2.Omits v := by
  induction es with
  | nil => simp [EntriesOmit]
  | cons q es ih => simp [EntriesOmit, ih]

theorem Payload.omits_iff {p : Payload} : p.Omits v ↔ ∀ q ∈ p.entries, q.2.Omits v := by
  cases p with
  | mk storage es => exact entriesOmit_iff

/-- The source does not mention the waiter. -/
def Source.Omits (v : WaiterId) (src : Source) : Prop := ∀ q ∈ src.entries, q.2.Omits v

/-- The event does not mention the waiter. -/
def Event.Omits (v : WaiterId) (e : Event) : Prop := e.payload.Omits v

theorem Source.Omits.new {src : Source} (h : src.Omits v) (fresh : Nat) :
    (Payload.new src fresh).Omits v := by
  rw [Payload.omits_iff, Payload.entries_new]
  exact h

theorem Source.omits_pairs {ps : List (String × Value)} (h : ∀ q ∈ ps, q.2.Omits v) :
    (Source.pairs ps).Omits v := by
  intro q hq
  rcases Dict.mem_insertAll (show q ∈ Dict.insertAll [] ps from hq) with hq | hq
  · exact h q hq
  · cases hq

theorem Payload.Omits.apply {p : Payload} {src : Source} (hp : p.Omits v) (hs : src.Omits v)
    (fresh : Nat) : (p.apply src fresh).Omits v := by
  unfold Payload.apply
  split
  · exact hp
  · rw [Payload.omits_iff] at hp ⊢
    intro q hq
    rcases Dict.mem_insertAll (show q ∈ Dict.insertAll p.entries src.entries from hq) with hq | hq
    · exact hs q hq
    · exact hp q hq

theorem Payload.Omits.get? {p : Payload} (h : p.Omits v) {key : String} {x : Value}
    (hx : p.get? key = some x) : x.Omits v :=
  Payload.omits_iff.mp h _ (Dict.mem_of_get? hx)

/-- The waiter of a payload that omits another is not that other. -/
theorem Payload.Omits.getWaiter? {p : Payload} (h : p.Omits v) {key : String} {w : WaiterId}
    (hw : p.getWaiter? key = some w) : w ≠ v := by
  unfold Payload.getWaiter? at hw
  split at hw
  · rename_i u hu
    cases hw
    exact h.get? hu
  · cases hw

/-- The event of a request mentions its own waiter only. -/
theorem omits_requestEvent {β : Type} {w : World β} {topic : String} {values : Source}
    (h : values.Omits v) (other : w.waiters.next ≠ v) : (w.requestEvent topic values).1.Omits v := by
  have waiter : (Source.pairs [(Key.waiter, .waiter w.waiters.next)]).Omits v :=
    Source.omits_pairs fun q hq => by
      rw [List.mem_singleton.mp hq]
      exact other
  exact (h.new _).apply waiter _

/-! ### Scripts -/

/-- The script puts the waiter into no event, does not answer it and ends in a behavior of a kind, and
so does what it starts. -/
def Script.Discreet {β : Type} (v : WaiterId) (D : β → Prop) : Script β → Prop
  | .finish next _ => D next
  | .survey k => ∀ s, (k s).Discreet v D
  | .build values k => ∀ p, (values.Omits v → p.Omits v) → (k p).Discreet v D
  | .create _ values _ k => ∀ e, (values.Omits v → e.Omits v) → (k e).Discreet v D
  | .emit _ e k => e.Omits v ∧ ∀ r, (k r).Discreet v D
  | .emitTo _ _ e k => e.Omits v ∧ ∀ r, (k r).Discreet v D
  | .emitAfter _ _ e k => e.Omits v ∧ ∀ r, (k r).Discreet v D
  | .cancelReminder _ k => k.Discreet v D
  | .answer w _ k => w ≠ v ∧ ∀ won, (k won).Discreet v D
  | .store _ _ _ k => ∀ r, (k r).Discreet v D
  | .start _ _ seed init k =>
    D seed ∧ (∀ outlet, (init outlet).Discreet v D) ∧ ∀ r, (k r).Discreet v D
  | .stopMesh _ k => k.Discreet v D

theorem Script.Discreet.mono {β : Type} {D D' : β → Prop} (imp : ∀ b, D b → D' b) {s : Script β}
    (h : s.Discreet v D) : s.Discreet v D' := by
  induction s with
  | finish next outcome => exact imp next h
  | survey k ih => exact fun s => ih s (h s)
  | build values k ih => exact fun p hp => ih p (h p hp)
  | create topic values scene k ih => exact fun e he => ih e (h e he)
  | emit outlet e k ih => exact ⟨h.1, fun r => ih r (h.2 r)⟩
  | emitTo outlet target e k ih => exact ⟨h.1, fun r => ih r (h.2 r)⟩
  | emitAfter outlet delay e k ih => exact ⟨h.1, fun r => ih r (h.2 r)⟩
  | cancelReminder reminder k ih => exact ih h
  | answer w p k ih => exact ⟨h.1, fun won => ih won (h.2 won)⟩
  | store scene key p k ih => exact fun r => ih r (h r)
  | start mesh id seed init k ihInit ih =>
    exact ⟨imp seed h.1, fun outlet => ihInit outlet (h.2.1 outlet), fun r => ih r (h.2.2 r)⟩
  | stopMesh mesh k ih => exact ih h

/-- The script of a behavior in a larger type of behaviors. -/
theorem Script.discreet_map {α β : Type} {D : β → Prop} {f : α → β} {s : Script α} :
    (s.map f).Discreet v D ↔ s.Discreet v fun a => D (f a) := by
  induction s with
  | finish => exact Iff.rfl
  | survey | build | create | emit | emitTo | emitAfter | cancelReminder | answer | store | start
  | stopMesh => simp only [Script.map, Script.Discreet, *]

/-! ### Behaviors -/

/-- Behaviors of a kind are discreet about a waiter in all that they do, and stay of this kind, as long
as they are told of no event that mentions it. -/
structure Discretion {β : Type} [Behavior β] (v : WaiterId) (D : β → Prop) : Prop where
  init : ∀ b outlet, D b → (Behavior.init b outlet).Discreet v D
  process : ∀ b e, D b → e.Omits v → (Behavior.process b e).Discreet v D
  recover : ∀ b fault, D b → (Behavior.recover b fault).Discreet v D
  terminate : ∀ b, D b → (Behavior.terminate b).Discreet v D

/-- The behavior does not know the waiter: it is of some kind that is discreet about it. -/
def Discreet {β : Type} [Behavior β] (v : WaiterId) (b : β) : Prop := ∃ D, Discretion v D ∧ D b

/-- The largest kind of behaviors that are discreet about a waiter. -/
theorem discretion_discreet {β : Type} [Behavior β] (v : WaiterId) :
    Discretion v (Discreet (β := β) v) where
  init b outlet := fun ⟨D, law, h⟩ => (law.init b outlet h).mono fun _ hb => ⟨D, law, hb⟩
  process b e := fun ⟨D, law, h⟩ he => (law.process b e h he).mono fun _ hb => ⟨D, law, hb⟩
  recover b fault := fun ⟨D, law, h⟩ => (law.recover b fault h).mono fun _ hb => ⟨D, law, hb⟩
  terminate b := fun ⟨D, law, h⟩ => (law.terminate b h).mono fun _ hb => ⟨D, law, hb⟩

section ReadyMade

variable {γ : Type} [CustomBehavior γ]

/-- A resident whose own behavior is of a discreet kind. -/
theorem Discretion.discreet {α : Type} [Behavior α] {D : α → Prop} (law : Discretion v D)
    {f : α → Resident γ} (init : ∀ a outlet, Behavior.init (f a) outlet = (Behavior.init a outlet).map f)
    (process : ∀ a e, Behavior.process (f a) e = (Behavior.process a e).map f)
    (recover : ∀ a fault, Behavior.recover (f a) fault = (Behavior.recover a fault).map f)
    (terminate : ∀ a, Behavior.terminate (f a) = (Behavior.terminate a).map f) {a : α} (h : D a) :
    Discreet v (f a) := by
  have mapped {s : Script α} (hs : s.Discreet v D) :
      (s.map f).Discreet v fun r => ∃ a, D a ∧ r = f a :=
    Script.discreet_map.mpr (hs.mono fun a ha => ⟨a, ha, rfl⟩)
  refine ⟨fun r => ∃ a, D a ∧ r = f a, ⟨?_, ?_, ?_, ?_⟩, a, h, rfl⟩
  · rintro _ outlet ⟨a, ha, rfl⟩
    rw [init]
    exact mapped (law.init a outlet ha)
  · rintro _ e ⟨a, ha, rfl⟩ he
    rw [process]
    exact mapped (law.process a e ha he)
  · rintro _ fault ⟨a, ha, rfl⟩
    rw [recover]
    exact mapped (law.recover a fault ha)
  · rintro _ ⟨a, ha, rfl⟩
    rw [terminate]
    exact mapped (law.terminate a ha)

/-- A counter answers the waiters that it is told of and mentions none. -/
theorem Counter.discretion (v : WaiterId) : Discretion v fun _ : Counter => True where
  init _ _ _ := trivial
  process c e _ he := by
    show (Counter.process c e).Discreet v _
    unfold Counter.process
    split
    · trivial
    · split
      · split
        · trivial
        · rename_i w hw
          exact fun p _ => ⟨he.getWaiter? hw, fun _ => trivial⟩
      · split
        · trivial
        · split <;> trivial
  recover _ _ _ := trivial
  terminate _ _ := trivial

theorem discreet_counter (v : WaiterId) (c : Counter) : Discreet v (Resident.counter c : Resident γ) :=
  (Counter.discretion v).discreet (fun _ _ => rfl) (fun _ _ => rfl) (fun _ _ => rfl)
    (fun _ => rfl) trivial

/-- A scene keeper writes on scenes and sends nothing. -/
theorem SceneKeeper.discretion (v : WaiterId) : Discretion v fun _ : SceneKeeper => True where
  init _ _ _ := trivial
  process k e _ _ := by
    show (SceneKeeper.process k e).Discreet v _
    unfold SceneKeeper.process
    split
    · trivial
    · intro r
      cases r <;> trivial
  recover _ _ _ := trivial
  terminate _ _ := trivial

theorem discreet_sceneKeeper (v : WaiterId) (k : SceneKeeper) :
    Discreet v (Resident.sceneKeeper k : Resident γ) :=
  (SceneKeeper.discretion v).discreet (fun _ _ => rfl) (fun _ _ => rfl) (fun _ _ => rfl)
    (fun _ => rfl) trivial

/-- The criterion finds no data that mention the waiter in an event that does not, next to data that do
not. -/
def Criterion.Discreet (v : WaiterId) (criterion : Criterion) : Prop :=
  ∀ e first, e.Omits v → (∀ x, first = some x → x.Omits v) →
    ∀ x, criterion e first = .hit (some x) → x.Omits v

theorem Criterion.discreet_onTopic (v : WaiterId) (topic : String) :
    (Criterion.onTopic topic).Discreet v := by
  intro e first he _ x hit
  unfold onTopic at hit
  split at hit
  · exact he.get? (Verdict.hit.inj hit)
  · cases hit

/-- The criterion of the pair is discreet, and its data do not mention the waiter. -/
structure Pair.Omits (v : WaiterId) (p : Pair) : Prop where
  criterion : p.criterion.Discreet v
  data : ∀ x, p.data = some x → x.Omits v

namespace Pair

variable {p : Pair}

theorem Omits.resolved (h : p.Omits v) : p.resolved.Omits v := ⟨h.criterion, nofun⟩

theorem discreet_report (h : p.Omits v) (topic : String) {values : List (String × Value)}
    (hv : ∀ q ∈ values, q.2.Omits v) : (p.report topic values).Discreet v (Omits v) := by
  unfold report
  split
  · exact h
  · rename_i time _
    split
    · exact h.resolved
    · intro e he
      refine ⟨he (Source.omits_pairs fun q hq => ?_), fun _ => h.resolved⟩
      rcases List.mem_append.mp hq with hq | hq
      · rcases List.mem_cons.mp hq with rfl | hq
        · trivial
        · obtain ⟨x, hx, rfl⟩ := Option.map_eq_some_iff.mp (Option.mem_toList.mp hq)
          exact h.data x hx
      · exact hv q hq

theorem discreet_reportTimeout (h : p.Omits v) : p.reportTimeout.Discreet v (Omits v) := by
  intro s
  refine discreet_report h _ fun q hq => ?_
  rw [List.mem_singleton.mp hq]
  trivial

theorem discreet_reportPair (h : p.Omits v) {data : Option Value}
    (hd : ∀ x, data = some x → x.Omits v) : (p.reportPair data).Discreet v (Omits v) := by
  intro s
  refine discreet_report h _ fun q hq => ?_
  rcases List.mem_cons.mp hq with rfl | hq
  · trivial
  · obtain ⟨x, hx, rfl⟩ := Option.map_eq_some_iff.mp (Option.mem_toList.mp hq)
    exact hd x hx

theorem discreet_cancelCheck (h : p.Omits v) {k : Pair → Script Pair}
    (hk : ∀ p : Pair, p.Omits v → (k p).Discreet v (Omits v)) :
    (p.cancelCheck k).Discreet v (Omits v) := by
  unfold cancelCheck
  split
  · exact hk p h
  · exact hk _ ⟨h.criterion, h.data⟩

theorem discreet_firstHit (h : p.Omits v) (e : Event) {data : Option Value}
    (hd : ∀ x, data = some x → x.Omits v) : (p.firstHit e data).Discreet v (Omits v) := by
  intro s check made
  split
  · exact h
  · refine ⟨made (Source.omits_pairs fun q hq => ?_), fun reminder => ⟨h.criterion, hd⟩⟩
    rw [List.mem_singleton.mp hq]
    trivial

theorem discreet_secondHit (h : p.Omits v) {data : Option Value}
    (hd : ∀ x, data = some x → x.Omits v) : (p.secondHit data).Discreet v (Omits v) := by
  refine discreet_cancelCheck h fun p h s => ?_
  dsimp only
  split
  · exact discreet_reportTimeout h
  · exact discreet_reportPair h hd

/-- A pair sends on the data of its criterion only. -/
theorem discretion (v : WaiterId) : Discretion v (Omits v) where
  init p outlet h := ⟨h.criterion, h.data⟩
  process p e h he := by
    show (p.process e).Discreet v _
    unfold process
    split
    · unfold check
      split
      · exact h
      · split
        · exact discreet_reportTimeout ⟨h.criterion, h.data⟩
        · exact h
    · split
      · exact h
      · exact h
      · rename_i data hit
        have found (x : Value) (hx : data = some x) : x.Omits v :=
          h.criterion e p.data he h.data x (hx ▸ hit)
        split
        · exact discreet_secondHit h found
        · exact discreet_firstHit h e found
  recover _ _ h := h
  terminate p h := discreet_cancelCheck (k := fun p => .finish p .done) h fun _ h => h

end Pair

theorem discreet_pair {p : Pair} (h : p.Omits v) : Discreet v (Resident.pair p : Resident γ) :=
  (Pair.discretion v).discreet (fun _ _ => rfl) (fun _ _ => rfl) (fun _ _ => rfl) (fun _ => rfl) h

end ReadyMade

end EventMesh
