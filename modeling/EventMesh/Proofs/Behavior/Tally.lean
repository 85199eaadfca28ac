import EventMesh.Behavior.Counter
import EventMesh.Mesh.Task
import EventMesh.Proofs.Ascending
import Mathlib.Algebra.BigOperators.Group.List.Lemmas
import Mathlib.Algebra.GroupWithZero.Nat
import Mathlib.Data.List.DropRight

/-!
# Tallies

What a counter ought to hold: `Counter.counted` lists the keys of all events since the last reset but the
control events, with repetitions, as a function of everything that was handled. A counter holds the
tally of that list (`Counter.Holds`) whatever it is told next (`Counter.Holds.heard`). Main statements:
a tally holds each key of the list with its multiplicity and no other key (`get?_tally_nil`), in
ascending order and whatever the order of the list (`ascending_tally`, `tally_perm`), and who reads the
snapshot of a tally finds just that (`countsOf_snapshot`, `toInt_get?_tally`).
-/

namespace EventMesh

/-- The event asks a counter to answer the waiter. -/
structure Event.Asks (e : Event) (v : WaiterId) : Prop where
  topic : e.topic = Topic.counterResults
  waiter : e.payload.getWaiter? Key.waiter = some v

namespace Counter

/-! ### What a counter ought to count -/

/-- The event tells a counter what to do and is not counted. -/
def isControl (e : Event) : Bool := e.topic = Topic.reset || e.topic = Topic.counterResults

/-- The events after the last reset. -/
def sinceReset (events : List Event) : List Event := events.rtakeWhile (·.topic ≠ Topic.reset)

/-- The keys that an event counts for; one on which the function panics counts for none. -/
def keysIn (keysOf : KeyFinder) (id : CellId) (e : Event) : List String :=
  (keysOf id e).toOption.getD []

/-- All keys that the events since the last reset count for, one after the other. -/
def counted (keysOf : KeyFinder) (id : CellId) (events : List Event) : List String :=
  ((sinceReset events).filter (!isControl ·)).flatMap (keysIn keysOf id)

/-- What one more event changes. -/
theorem counted_concat (keysOf : KeyFinder) (id : CellId) (events : List Event) (e : Event) :
    counted keysOf id (events ++ [e]) =
      if e.topic = Topic.reset then []
      else counted keysOf id events ++
        if e.topic = Topic.counterResults then [] else keysIn keysOf id e := by
  unfold counted sinceReset
  rw [List.rtakeWhile_concat]
  by_cases hr : e.topic = Topic.reset
  · simp [hr]
  · have kept : decide (e.topic ≠ Topic.reset) = true := by simpa using hr
    rw [if_pos kept, if_neg hr, List.filter_append, List.flatMap_append]
    by_cases hc : e.topic = Topic.counterResults
    · simp [isControl, hc]
    · simp [isControl, hr, hc]

/-! ### What a tally holds -/

theorem tally_append (counts : Dict String Nat) (first second : List String) :
    tally counts (first ++ second) = tally (tally counts first) second :=
  List.foldl_append

/-- A tally holds each key with its multiplicity, and no key of multiplicity zero. -/
theorem get?_tally_nil (keys : List String) (key : String) :
    Dict.get? (tally [] keys) key = if keys.count key = 0 then none else some (keys.count key) := by
  induction keys using List.reverseRecOn with
  | nil => rfl
  | append_singleton keys k ih =>
    have counts := get?_tally [] keys k
    rw [tally_append, show tally (tally [] keys) [k] =
      Dict.insert (tally [] keys) k ((Dict.get? (tally [] keys) k).getD 0 + 1) from rfl,
      Dict.get?_insert, List.count_append, counts]
    by_cases hk : k = key
    · subst hk
      simp
    · simp [hk, ih]

theorem ascending_tally (keys : List String) : Dict.Ascending (tally [] keys) := by
  induction keys using List.reverseRecOn with
  | nil => exact List.Pairwise.nil
  | append_singleton keys k ih =>
    rw [tally_append]
    exact ih.insert k _

/-- A tally does not tell in which order it was taken. -/
theorem tally_perm {keys keys' : List String} (h : keys.Perm keys') :
    tally [] keys = tally [] keys' := by
  refine (ascending_tally keys).ext (ascending_tally keys') fun key => ?_
  rw [get?_tally_nil, get?_tally_nil, h.count_eq]

theorem mem_keys_tally (keys : List String) (key : String) :
    key ∈ Dict.keys (tally [] keys) ↔ key ∈ keys := by
  rw [← not_iff_not, ← Dict.get?_eq_none_iff, get?_tally_nil]
  split
  · rename_i absent
    simpa using List.count_eq_zero.mp absent
  · rename_i present
    simpa using List.count_pos_iff.mp (Nat.pos_of_ne_zero present)

/-- The counts of a tally add up to the number of keys that were counted. -/
theorem sum_tally (keys : List String) : ((tally [] keys).map (·.2)).sum = keys.length := by
  have counts : (tally [] keys).map (·.2) = (Dict.keys (tally [] keys)).map (keys.count ·) := by
    rw [Dict.keys, List.map_map]
    refine List.map_congr_left fun q hq => ?_
    have found := ((ascending_tally keys).mem_iff q.1 q.2).mp hq
    rw [get?_tally_nil] at found
    split at found
    · cases found
    · exact (Option.some.inj found).symm
  have each_once : (Dict.keys (tally [] keys)).Perm keys.dedup := by
    refine (List.perm_ext_iff_of_nodup (ascending_tally keys).nodup (List.nodup_dedup _)).mpr ?_
    intro key
    rw [mem_keys_tally, List.mem_dedup]
  rw [counts, (each_once.map _).sum_eq, List.sum_map_count_dedup_eq_length]

/-! ### What a snapshot tells -/

theorem mapM_ints (counts : Dict String Int64) :
    (Dict.mapValues Value.int counts).mapM (fun q : String × Value =>
      match q.2 with
      | .int n => (.ok (q.1, n) : Except MeshError (String × Int64))
      | v => .error (.invalidResponse ("counter " ++ Text.quoted q.1 ++ " holds " ++ v.kind))) =
      .ok counts := by
  induction counts with
  | nil => rfl
  | cons q counts ih =>
    rw [show Dict.mapValues Value.int (q :: counts) =
      (q.1, Value.int q.2) :: Dict.mapValues Value.int counts from rfl, List.mapM_cons, ih]
    rfl

/-- Whoever reads the snapshot of a tally finds all counts of the tally and nothing that is no integer.
-/
theorem countsOf_snapshot (keys : List String) (fresh : Nat) :
    Errand.countsOf (Payload.new (.pairs (snapshot (tally [] keys))) fresh) =
      .ok (Dict.mapValues Int64.ofNat (tally [] keys)) := by
  have ascending : Dict.Ascending ([] ++ snapshot (tally [] keys)) := by
    rw [List.nil_append, Dict.Ascending, snapshot, Dict.keys_mapValues]
    exact ascending_tally keys
  have entries : (Payload.new (.pairs (snapshot (tally [] keys))) fresh).entries =
      Dict.mapValues Value.int (Dict.mapValues Int64.ofNat (tally [] keys)) := by
    show Dict.insertAll [] (snapshot (tally [] keys)) = _
    rw [Dict.insertAll_of_ascending ascending]
    simp [snapshot, Dict.mapValues]
  rw [Errand.countsOf, entries]
  exact mapM_ints _

/-- Words of 64 bits hold the counts of fewer than `2 ^ 63` keys. -/
theorem toInt_get?_tally {keys : List String} (few : keys.length < 2 ^ 63) (key : String) :
    (Dict.get? (Dict.mapValues Int64.ofNat (tally [] keys)) key).map Int64.toInt =
      if keys.count key = 0 then none else some ↑(keys.count key) := by
  rw [Dict.get?_mapValues, get?_tally_nil]
  split
  · rfl
  · have fits : keys.count key < 2 ^ 63 := Nat.lt_of_le_of_lt List.count_le_length few
    exact congrArg some (Int64.toInt_ofNat_of_lt fits)

/-! ### What a counter holds -/

/-- The counter after an event. -/
def heard (c : Counter) (e : Event) : Counter :=
  if e.topic = Topic.reset then { c with counts := [] }
  else if e.topic = Topic.counterResults then c
  else match c.outlet with
    | none => c
    | some outlet => { c with counts := tally c.counts (keysIn c.keysOf outlet.id e) }

/-- A counter that is told of an event ends in the next state at once, unless somebody asks, who gets the
snapshot. -/
theorem process_cases (c : Counter) (e : Event) :
    (∃ outcome, (∀ v, ¬ e.Asks v) ∧ c.process e = .finish (c.heard e) outcome) ∨
      ∃ v, e.Asks v ∧ c.process e = .build (.pairs (snapshot c.counts)) fun p =>
        .answer v p fun _ => .finish (c.heard e) .done := by
  unfold process heard
  split
  · rename_i reset
    refine Or.inl ⟨_, fun v asks => ?_, rfl⟩
    rw [asks.topic] at reset
    exact absurd reset (by decide)
  · split
    · rename_i results
      split
      · rename_i absent
        refine Or.inl ⟨_, fun v asks => ?_, rfl⟩
        rw [asks.waiter] at absent
        cases absent
      · rename_i v found
        exact Or.inr ⟨v, ⟨results, found⟩, rfl⟩
    · rename_i other
      refine Or.inl ?_
      obtain ⟨keysOf, outlet, counts⟩ := c
      cases outlet with
      | none => exact ⟨_, fun v asks => other asks.topic, rfl⟩
      | some outlet =>
        dsimp only [keysIn]
        cases keysOf outlet.id e with
        | error panic => exact ⟨_, fun v asks => other asks.topic, rfl⟩
        | ok keys => exact ⟨_, fun v asks => other asks.topic, rfl⟩

/-- The counter has a cell of the given name and holds the tally of what was handled. -/
structure Holds (keysOf : KeyFinder) (id : CellId) (handled : List Event) (c : Counter) : Prop where
  finder : c.keysOf = keysOf
  outlet : c.outlet.map (·.id) = some id
  counts : c.counts = tally [] (counted keysOf id handled)

/-- **A counter holds the tally of what was handled, whatever it is told next.** -/
theorem Holds.heard {keysOf : KeyFinder} {id : CellId} {handled : List Event} {c : Counter}
    (h : c.Holds keysOf id handled) (e : Event) : (c.heard e).Holds keysOf id (handled ++ [e]) := by
  obtain ⟨outlet, ho, rfl⟩ := Option.map_eq_some_iff.mp h.outlet
  unfold Counter.heard
  split
  · rename_i reset
    exact ⟨h.finder, h.outlet, by rw [counted_concat, if_pos reset]; rfl⟩
  · rename_i noReset
    split
    · rename_i results
      refine ⟨h.finder, h.outlet, ?_⟩
      rw [counted_concat, if_neg noReset, if_pos results, List.append_nil]
      exact h.counts
    · rename_i counting
      simp only [ho]
      refine ⟨h.finder, rfl, ?_⟩
      rw [counted_concat, if_neg noReset, if_neg counting, tally_append, ← h.counts, ← h.finder]

end Counter

end EventMesh
