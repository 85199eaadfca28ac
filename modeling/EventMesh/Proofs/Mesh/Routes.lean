import EventMesh.Behavior.Actor
import EventMesh.Proofs.Mesh.Listing
import EventMesh.Proofs.Mesh.Settled

/-!
# Routes

What the subscriptions of a mesh say, told by their history. A `Note` is kept of each subscription
that is made or ended and of each name that leaves the registry; `Note.joinedAt?` finds in the notes
when a cell first subscribed to another since that was last undone. A `Chronicle` is any sequence of
steps with the notes of it, the newest first. Main statement: in every chronicle the subscribers of a
cell are those that the notes say, in the order in which they joined, each once, and all of them and
the cell itself are registered (`routes_follow_notes`).
-/

namespace EventMesh

/-- What is noted of the subscriptions of a mesh. -/
inductive Note where
  /-- A cell subscribed to another. -/
  | joined (emitter id : CellId)
  /-- A subscription was ended. -/
  | parted (emitter id : CellId)
  /-- A name left the registry. -/
  | left (id : CellId)
  deriving DecidableEq

namespace Note

/-- Whether a note ends the subscription of a cell to an emitter. -/
def severs (emitter id : CellId) : Note → Bool
  | .joined _ _ => false
  | .parted e i => e = emitter ∧ i = id
  | .left i => i = emitter ∨ i = id

/-- How many notes there were when a cell first subscribed to an emitter since that was last undone.
The newest note comes first. -/
def joinedAt? : List Note → CellId → CellId → Option Nat
  | [], _, _ => none
  | note :: log, emitter, id =>
    if note.severs emitter id then none
    else match joinedAt? log emitter id with
      | some n => some n
      | none => if note = .joined emitter id then some log.length else none

variable {log notes : List Note} {emitter e id i : CellId}

theorem joinedAt?_lt {n : Nat} (h : joinedAt? log emitter id = some n) : n < log.length := by
  induction log with
  | nil => cases h
  | cons note log ih =>
    rw [joinedAt?] at h
    split at h
    · cases h
    · split at h
      · rename_i known
        cases h
        exact Nat.lt_succ_of_lt (ih known)
      · split at h
        · cases h
          exact Nat.lt_succ_self _
        · cases h

/-- A subscription is dated unless it is there already. -/
theorem joinedAt?_joined (log : List Note) (emitter e id i : CellId) :
    joinedAt? (.joined emitter id :: log) e i =
      if emitter = e ∧ id = i then some ((joinedAt? log e i).getD log.length)
      else joinedAt? log e i := by
  rw [joinedAt?, if_neg (by simp [severs])]
  by_cases same : emitter = e ∧ id = i
  · obtain ⟨rfl, rfl⟩ := same
    cases joinedAt? log emitter id <;> simp
  · have other : Note.joined emitter id ≠ .joined e i := by
      rintro ⟨⟩
      exact same ⟨rfl, rfl⟩
    cases joinedAt? log e i <;> simp [same, other]

/-- Notes of which none tells of a new subscription. -/
theorem joinedAt?_append (cuts : ∀ n ∈ notes, ∀ e i, n ≠ .joined e i) :
    joinedAt? (notes ++ log) emitter id =
      if notes.any (·.severs emitter id) then none else joinedAt? log emitter id := by
  induction notes with
  | nil => rfl
  | cons note notes ih =>
    have rest := ih fun n hn => cuts n (List.mem_cons_of_mem _ hn)
    have cut := cuts note List.mem_cons_self emitter id
    rw [List.cons_append, joinedAt?, rest]
    by_cases severed : note.severs emitter id = true
    · simp [severed]
    · by_cases before : notes.any (·.severs emitter id) = true
      · simp [severed, before, cut]
      · simp only [severed, before, List.any_cons, Bool.or_self, Bool.false_eq_true, if_false]
        cases joinedAt? log emitter id <;> simp [cut]

theorem any_parted_severs (emitter e i : CellId) (ids : List CellId) :
    (ids.map (Note.parted emitter)).any (·.severs e i) = true ↔ emitter = e ∧ i ∈ ids := by
  rw [List.any_map, List.any_eq_true]
  constructor
  · rintro ⟨id, hid, cut⟩
    simp only [Function.comp_apply, severs, decide_eq_true_eq] at cut
    obtain ⟨rfl, rfl⟩ := cut
    exact ⟨rfl, hid⟩
  · rintro ⟨rfl, hi⟩
    exact ⟨i, hi, by simp [severs]⟩

theorem any_left_severs (e i : CellId) (gone : List CellId) :
    (gone.map Note.left).any (·.severs e i) = true ↔ e ∈ gone ∨ i ∈ gone := by
  rw [List.any_map, List.any_eq_true]
  constructor
  · rintro ⟨id, hid, cut⟩
    simp only [Function.comp_apply, severs, decide_eq_true_eq] at cut
    rcases cut with rfl | rfl
    · exact Or.inl hid
    · exact Or.inr hid
  · rintro (he | hi)
    · exact ⟨e, he, by simp [severs]⟩
    · exact ⟨i, hi, by simp [severs]⟩

/-- Whether one cell subscribed to an emitter before another. -/
def Earlier (log : List Note) (emitter id i : CellId) : Prop :=
  ∃ n m, joinedAt? log emitter id = some n ∧ joinedAt? log emitter i = some m ∧ n < m

theorem Earlier.ne (h : Earlier log emitter id i) : id ≠ i := by
  rintro rfl
  obtain ⟨n, m, hn, hm, before⟩ := h
  rw [hn] at hm
  cases hm
  exact Nat.lt_irrefl n before

/-- Routes are as the notes say: whoever subscribed is listed, in the order of the subscriptions. -/
structure Tell (log : List Note) (routes : CellId → List CellId) : Prop where
  mem_iff : ∀ emitter id, id ∈ routes emitter ↔ (joinedAt? log emitter id).isSome
  ordered : ∀ emitter, (routes emitter).Pairwise (Earlier log emitter)

namespace Tell

variable {routes routes' : CellId → List CellId}

theorem nil : Tell [] fun _ => [] :=
  ⟨fun _ _ => by simp [joinedAt?], fun _ => List.Pairwise.nil⟩

/-- One cell subscribes. -/
theorem join (h : Tell log routes) (emitter id : CellId) :
    Tell (.joined emitter id :: log) fun e =>
      if emitter = e then World.addMissing (routes e) [id] else routes e := by
  -- Whoever was dated keeps its date.
  have stays : ∀ e a n, joinedAt? log e a = some n →
      joinedAt? (.joined emitter id :: log) e a = some n := by
    intro e a n hn
    rw [joinedAt?_joined, hn]
    split <;> rfl
  have still : ∀ e a b, Earlier log e a b → Earlier (.joined emitter id :: log) e a b := by
    rintro e a b ⟨n, m, hn, hm, before⟩
    exact ⟨n, m, stays e a n hn, stays e b m hm, before⟩
  constructor
  · intro e a
    rw [joinedAt?_joined]
    by_cases he : emitter = e
    · subst he
      rw [if_pos rfl, World.mem_addMissing, h.mem_iff, List.mem_singleton]
      by_cases ha : id = a
      · simp [ha]
      · simp [ha, Ne.symm ha]
    · rw [if_neg he, if_neg fun both => he both.1, h.mem_iff]
  · intro e
    split
    · rename_i he
      subst he
      have old : (routes emitter).Pairwise (Earlier (.joined emitter id :: log) emitter) :=
        (h.ordered emitter).imp (still emitter _ _)
      show (if id ∈ routes emitter then routes emitter else routes emitter ++ [id]).Pairwise _
      split
      · exact old
      · rename_i absent
        rw [h.mem_iff, Option.not_isSome_iff_eq_none] at absent
        refine List.pairwise_append.mpr ⟨old, List.pairwise_singleton _ _, ?_⟩
        intro a ha b hb
        rw [List.mem_singleton.mp hb]
        obtain ⟨n, hn⟩ := Option.isSome_iff_exists.mp ((h.mem_iff emitter a).mp ha)
        refine ⟨n, log.length, stays emitter a n hn, ?_, joinedAt?_lt hn⟩
        rw [joinedAt?_joined, if_pos ⟨rfl, rfl⟩, absent]
        rfl
    · exact (h.ordered e).imp (still e _ _)

/-- Several cells subscribe, one after the other. -/
theorem subscribe (h : Tell log routes) (emitter : CellId) (ids : List CellId) :
    Tell ((ids.map (.joined emitter)).reverse ++ log) fun e =>
      if emitter = e then World.addMissing (routes e) ids else routes e := by
  induction ids generalizing log routes with
  | nil => simpa [World.addMissing] using h
  | cons id ids ih =>
    have rest := ih (h.join emitter id)
    rw [List.map_cons, List.reverse_cons, List.append_assoc]
    refine cast (congrArg (Tell _) (funext fun e => ?_)) rest
    split <;> rfl

/-- Subscriptions end. -/
theorem sever (h : Tell log routes) (cuts : ∀ n ∈ notes, ∀ e i, n ≠ .joined e i)
    (filtered : ∀ e, routes' e = (routes e).filter fun id => !notes.any (·.severs e id)) :
    Tell (notes ++ log) routes' := by
  constructor
  · intro e id
    rw [filtered, List.mem_filter, h.mem_iff, joinedAt?_append cuts]
    cases notes.any (·.severs e id) <;> simp
  · intro e
    rw [filtered]
    refine List.Pairwise.imp_of_mem ?_ ((h.ordered e).filter _)
    rintro a b ha hb ⟨n, m, hn, hm, before⟩
    have whole : ∀ {id}, id ∈ (routes e).filter (fun id => !notes.any (·.severs e id)) →
        notes.any (·.severs e id) ≠ true := by
      intro id hid
      simpa using (List.mem_filter.mp hid).2
    refine ⟨n, m, ?_, ?_, before⟩
    · rw [joinedAt?_append cuts, if_neg (whole ha), hn]
    · rw [joinedAt?_append cuts, if_neg (whole hb), hm]

end Tell

end Note

namespace World

open Function Time

variable {β : Type} {mesh : MeshId} {w w₁ w₂ : World β} {log : List Note}

/-- Whether a step is a subscription that is made or ended. -/
def Reroutes (mesh : MeshId) (w w' : World β) : Prop :=
  ∃ emitter ids, w.subscribe mesh emitter ids = (.ok (), w') ∨
    w.unsubscribe mesh emitter ids = (.ok (), w')

/-- Whether the incarnation of a name left the registry. -/
def Departed (mesh : MeshId) (w w' : World β) (id : CellId) : Prop :=
  ∃ key, w.lookUp mesh id = some key ∧ w'.lookUp mesh id ≠ some key

/-- Steps one after the other, with the notes that are kept of them, the newest first. -/
inductive Chronicle (mesh : MeshId) (w : World β) : List Note → World β → Prop
  | nil : Chronicle mesh w [] w
  | subscribe {log : List Note} {w₁ w₂ : World β} (h : Chronicle mesh w log w₁)
      {emitter : CellId} {ids : List CellId}
      (done : w₁.subscribe mesh emitter ids = (.ok (), w₂)) :
      Chronicle mesh w ((ids.map (.joined emitter)).reverse ++ log) w₂
  | unsubscribe {log : List Note} {w₁ w₂ : World β} (h : Chronicle mesh w log w₁)
      {emitter : CellId} {ids : List CellId}
      (done : w₁.unsubscribe mesh emitter ids = (.ok (), w₂)) :
      Chronicle mesh w (ids.map (.parted emitter) ++ log) w₂
  | other {log : List Note} {w₁ w₂ : World β} {hand hand' : CellKey → Hand}
      (h : Chronicle mesh w log w₁) (s : Step w₁ hand w₂ hand') (plain : ¬ Reroutes mesh w₁ w₂)
      {gone : List CellId} (departed : ∀ id, id ∈ gone ↔ Departed mesh w₁ w₂ id) :
      Chronicle mesh w (gone.map .left ++ log) w₂

/-! ### Every sequence of steps has its notes -/

theorem mem_cellIds (w : World β) (mesh : MeshId) (id : CellId) :
    id ∈ w.cellIds mesh ↔ (w.lookUp mesh id).isSome := by
  unfold cellIds lookUp
  cases w.meshes.get? mesh with
  | none => simp
  | some m =>
    rw [Option.map_some, Option.getD_some, Option.bind_some, ← not_iff_not,
      Option.not_isSome_iff_eq_none, Dict.get?_eq_none_iff]

/-- The names whose incarnation left, of those that were registered. -/
theorem exists_departed (mesh : MeshId) (w w' : World β) :
    ∃ gone : List CellId, ∀ id, id ∈ gone ↔ Departed mesh w w' id := by
  refine ⟨(w.cellIds mesh).filter fun id => w'.lookUp mesh id ≠ w.lookUp mesh id, fun id => ?_⟩
  rw [List.mem_filter, mem_cellIds, decide_eq_true_eq]
  constructor
  · rintro ⟨known, changed⟩
    obtain ⟨key, hk⟩ := Option.isSome_iff_exists.mp known
    exact ⟨key, hk, by rwa [← hk]⟩
  · rintro ⟨key, hk, changed⟩
    rw [hk]
    exact ⟨rfl, changed⟩

theorem Chronicle.step {hand hand' : CellKey → Hand} (h : Chronicle mesh w log w₁)
    (s : Step w₁ hand w₂ hand') : ∃ log', Chronicle mesh w log' w₂ := by
  by_cases rerouting : Reroutes mesh w₁ w₂
  · obtain ⟨emitter, ids, done | done⟩ := rerouting
    · exact ⟨_, h.subscribe done⟩
    · exact ⟨_, h.unsubscribe done⟩
  · obtain ⟨gone, departed⟩ := exists_departed mesh w₁ w₂
    exact ⟨_, h.other s rerouting departed⟩

theorem exists_chronicle {hand hand' : CellKey → Hand} (h : Steps w hand w₁ hand') :
    ∃ log, Chronicle mesh w log w₁ := by
  induction h with
  | refl => exact ⟨[], .nil⟩
  | tail _ s ih =>
    obtain ⟨log, before⟩ := ih
    exact before.step s

/-! ### What the notes say is so -/

theorem tell_subscribe {emitter : CellId} {ids : List CellId}
    (done : w.subscribe mesh emitter ids = (.ok (), w₁)) (h : Note.Tell log (w.subscribers mesh)) :
    Note.Tell ((ids.map (.joined emitter)).reverse ++ log) (w₁.subscribers mesh) := by
  rcases subscribe_cases w mesh emitter ids with ⟨err, refused⟩ | ⟨known, entered⟩
  · rw [refused] at done
    cases done
  · rw [entered] at done
    cases done
    have routes := subscribers_reroute_of_known (known emitter List.mem_cons_self)
      (addMissing · ids) mesh
    refine cast (congrArg (Note.Tell _) (funext fun e => ?_)) (h.subscribe emitter ids)
    rw [routes]
    simp

theorem tell_unsubscribe {emitter : CellId} {ids : List CellId}
    (done : w.unsubscribe mesh emitter ids = (.ok (), w₁))
    (h : Note.Tell log (w.subscribers mesh)) :
    Note.Tell (ids.map (.parted emitter) ++ log) (w₁.subscribers mesh) := by
  rcases unsubscribe_cases w mesh emitter ids with ⟨err, refused⟩ | ⟨known, entered⟩
  · rw [refused] at done
    cases done
  · rw [entered] at done
    cases done
    refine h.sever ?_ fun e => ?_
    · intro n hn e i
      obtain ⟨id, -, rfl⟩ := List.mem_map.mp hn
      nofun
    · rw [subscribers_reroute_of_known known (·.filter (· ∉ ids))]
      by_cases he : emitter = e
      · rw [if_pos ⟨rfl, he⟩]
        refine List.filter_congr fun i _ => ?_
        rw [decide_not, Bool.not_inj_iff, Bool.eq_iff_iff, Note.any_parted_severs, decide_eq_true_eq]
        exact ⟨fun hi => ⟨he, hi⟩, fun both => both.2⟩
      · rw [if_neg fun both => he both.2]
        refine (List.filter_eq_self.mpr fun i _ => ?_).symm
        rw [Bool.not_eq_true', ← Bool.not_eq_true, Note.any_parted_severs]
        exact fun both => he both.1

/-- Whoever leaves takes its routes along, and nobody else's. -/
theorem tell_other {hand hand' : CellKey → Hand} (orderly : w.Orderly)
    (s : Step w hand w₁ hand') (plain : ¬ Reroutes mesh w w₁) {gone : List CellId}
    (departed : ∀ id, id ∈ gone ↔ Departed mesh w w₁ id) (h : Note.Tell log (w.subscribers mesh)) :
    Note.Tell (gone.map .left ++ log) (w₁.subscribers mesh) := by
  have severed : ∀ e i, _ := fun e i => Note.any_left_severs e i gone
  -- Where names stay nobody is severed from anybody.
  have untouched : (∀ i key, w.lookUp mesh i = some key → w₁.lookUp mesh i = some key) →
      ∀ e, w.subscribers mesh e =
        (w.subscribers mesh e).filter fun id => !(gone.map Note.left).any (·.severs e id) := by
    intro names e
    have nobody : ∀ i, i ∉ gone := by
      intro i hi
      obtain ⟨key, hk, changed⟩ := (departed i).mp hi
      exact changed (names i key hk)
    refine (List.filter_eq_self.mpr fun i _ => ?_).symm
    rw [Bool.not_eq_true', ← Bool.not_eq_true, severed]
    rintro (he | hi)
    · exact nobody e he
    · exact nobody i hi
  refine h.sever ?_ fun e => ?_
  · intro n hn e i
    obtain ⟨id, -, rfl⟩ := List.mem_map.mp hn
    nofun
  · cases relisted_step s mesh with
    | kept names routes =>
      rw [routes]
      exact untouched (fun i key hk => by rw [names, hk]) e
    | entered id key free names routes =>
      rw [routes]
      refine untouched (fun i j hi => ?_) e
      rw [names, if_neg, hi]
      rintro rfl
      rw [hi] at free
      cases free
    | @left id key named why names routes =>
      have just : ∀ i, i ∈ gone ↔ id = i := by
        intro i
        rw [departed, Departed]
        by_cases hi : id = i
        · subst hi
          simp [names, named]
        · simp [names, hi]
      rw [routes]
      split
      · rename_i he
        refine (List.filter_eq_nil_iff.mpr fun i _ => ?_).symm
        rw [Bool.not_eq_true', Bool.not_eq_false, severed]
        exact Or.inl ((just e).mpr he)
      · rename_i he
        refine List.filter_congr fun i _ => ?_
        rw [← Bool.not_eq_eq_eq_not, ← decide_not, Bool.eq_iff_iff, severed, just, just]
        simp [he, eq_comm]
    | vacated why names routes =>
      rw [routes]
      refine (List.filter_eq_nil_iff.mpr fun i hi => ?_).symm
      obtain ⟨key, hk⟩ := Option.isSome_iff_exists.mp (orderly.routed mesh e i hi).1
      rw [Bool.not_eq_true', Bool.not_eq_false, severed]
      exact Or.inl ((departed e).mpr ⟨key, hk, by rw [names]; nofun⟩)
    | subscribed emitter ids done => exact absurd ⟨emitter, ids, Or.inl done⟩ plain
    | unsubscribed emitter ids done => exact absurd ⟨emitter, ids, Or.inr done⟩ plain

theorem tell_chronicle {wall : Wall} (h : Chronicle mesh (startingAt wall) log w) :
    w.Orderly ∧ Note.Tell log (w.subscribers mesh) := by
  induction h with
  | nil => exact ⟨orderly_startingAt wall, Note.Tell.nil⟩
  | @subscribe log w₁ w₂ _ emitter ids done ih =>
    have orderly := ih.1.subscribe mesh emitter ids
    rw [done] at orderly
    exact ⟨orderly, tell_subscribe done ih.2⟩
  | @unsubscribe log w₁ w₂ _ emitter ids done ih =>
    have orderly := ih.1.unsubscribe mesh emitter ids
    rw [done] at orderly
    exact ⟨orderly, tell_unsubscribe done ih.2⟩
  | other _ s plain departed ih =>
    exact ⟨orderly_step s ih.1, tell_other ih.1 s plain departed ih.2⟩

/-- A name that comes to be registered anew is in no subscription yet. -/
theorem unrouted_of_entered {hand hand' : CellKey → Hand} (orderly : w.Orderly)
    (s : Step w hand w₁ hand') {id : CellId} {key : CellKey}
    (before : w.lookUp mesh id ≠ some key) (after : w₁.lookUp mesh id = some key) :
    w₁.subscribers mesh id = [] ∧ ∀ e, id ∉ w₁.subscribers mesh e := by
  cases relisted_step s mesh with
  | kept names =>
    rw [names] at after
    exact absurd after before
  | entered i j free names routes =>
    have hi : i = id := by
      by_contra hne
      rw [names, if_neg hne] at after
      exact before after
    subst hi
    obtain ⟨targeted, emitting⟩ := orderly.unrouted free
    exact ⟨by rw [routes, emitting], fun e => by rw [routes]; exact targeted e⟩
  | left named why names =>
    rw [names] at after
    split at after
    · cases after
    · exact absurd after before
  | vacated why names =>
    rw [names] at after
    cases after
  | subscribed emitter ids done known names =>
    rw [names] at after
    exact absurd after before
  | unsubscribed emitter ids done names =>
    rw [names] at after
    exact absurd after before

/-- The routes of a mesh, told by the notes that were kept of it. -/
structure RoutesFollow (w : World β) (mesh : MeshId) (log : List Note) : Prop where
  /-- Whoever has subscribers is registered, and so are they. -/
  registered : ∀ emitter id, id ∈ w.subscribers mesh emitter →
    (w.lookUp mesh emitter).isSome ∧ (w.lookUp mesh id).isSome
  nodup : ∀ emitter, (w.subscribers mesh emitter).Nodup
  /-- A cell is listed just if it subscribed and that was not undone since. -/
  mem_iff : ∀ emitter id, id ∈ w.subscribers mesh emitter ↔
    (Note.joinedAt? log emitter id).isSome
  /-- Subscribers are listed in the order in which each first subscribed since that was last undone.
  -/
  ordered : ∀ emitter, (w.subscribers mesh emitter).Pairwise (Note.Earlier log emitter)
  /-- Whoever comes to be registered has no subscribers and is subscribed to nobody. -/
  newcomer : ∀ {hand hand' : CellKey → Hand} {w' : World β}, Step w hand w' hand' →
    ∀ id key, w.lookUp mesh id ≠ some key → w'.lookUp mesh id = some key →
      w'.subscribers mesh id = [] ∧ ∀ emitter, id ∉ w'.subscribers mesh emitter

variable [Behavior β]

/-- **Routes are as their history says.** Whatever sequence of steps of loops and deeds of anybody led
to a world, its routes are those of the notes kept of it; and such notes are kept of every sequence,
of the runs among others. -/
theorem routes_follow_notes (wall : Wall) (mesh : MeshId) :
    (∀ (log : List Note) (w : World β), Chronicle mesh (startingAt wall) log w →
      w.RoutesFollow mesh log) ∧
    (∀ (w : World β) (hand : CellKey → Hand), Steps (startingAt wall) atRest w hand →
      ∃ log, Chronicle mesh (startingAt wall) log w) ∧
    ∀ moves : List (Move β), ∃ log, Chronicle mesh (startingAt wall) log
      ((startingAt wall).run moves) := by
  refine ⟨?_, fun w hand h => exists_chronicle h, fun moves => exists_chronicle (steps_run _ moves)⟩
  intro log w h
  obtain ⟨orderly, tell⟩ := tell_chronicle h
  refine ⟨orderly.routed mesh, ?_, tell.mem_iff, tell.ordered, ?_⟩
  · intro emitter
    exact (tell.ordered emitter).imp fun earlier => earlier.ne
  · intro hand hand' w' s id key before after
    exact unrouted_of_entered orderly s before after

/-- Two cells that subscribed to a third, the first of which left, came back and subscribed again. -/
def resubscribed : World (Resident Actor) :=
  (startingAt ⟨0, 0⟩).run [
    .openMesh "mesh" (.ofMillis 1000),
    .start ⟨0⟩ ⟨"a"⟩ (.custom { rules := [] }),
    .start ⟨0⟩ ⟨"b"⟩ (.custom { rules := [] }),
    .start ⟨0⟩ ⟨"c"⟩ (.custom { rules := [] }),
    .subscribe ⟨0⟩ ⟨"a"⟩ [⟨"b"⟩, ⟨"c"⟩],
    .stopCell ⟨0⟩ ⟨"b"⟩,
    .start ⟨0⟩ ⟨"b"⟩ (.custom { rules := [] }),
    .subscribe ⟨0⟩ ⟨"a"⟩ [⟨"b"⟩]]

/-- It comes last now. -/
theorem routes_follow_notes_resubscribed : ∃ log,
    Chronicle ⟨0⟩ (startingAt ⟨0, 0⟩) log resubscribed ∧
    resubscribed.subscribers ⟨0⟩ ⟨"a"⟩ = [⟨"c"⟩, ⟨"b"⟩] ∧
    Note.Earlier log ⟨"a"⟩ ⟨"c"⟩ ⟨"b"⟩ ∧ resubscribed.RoutesFollow ⟨0⟩ log := by
  obtain ⟨follow, -, kept⟩ := routes_follow_notes (β := Resident Actor) ⟨0, 0⟩ ⟨0⟩
  obtain ⟨log, chronicle⟩ := kept _
  have listed : resubscribed.subscribers ⟨0⟩ ⟨"a"⟩ = [⟨"c"⟩, ⟨"b"⟩] := rfl
  have told : resubscribed.RoutesFollow ⟨0⟩ log := follow log resubscribed chronicle
  have ordered := told.ordered ⟨"a"⟩
  rw [listed] at ordered
  exact ⟨log, chronicle, listed, List.rel_of_pairwise_cons ordered List.mem_cons_self, told⟩

end World

end EventMesh
