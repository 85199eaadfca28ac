import EventMesh.Proofs.Ascending
import EventMesh.Proofs.Payload.Memory

/-!
# Laying a source over a payload

A source says of each key what it holds there (`Source.value?`), whatever its shape. Laid over a payload
it wins wherever it has the key, so laying two sources over a payload one after the other is laying over
it the second laid over the first. Main statement: `overlays_apply`, which also says when storage is
shared and that nobody who holds any of the payloads notices.
-/

namespace EventMesh

/-- A payload has one entry a key, in ascending order of the keys. -/
def Payload.Proper (p : Payload) : Prop := Dict.Ascending p.entries

instance (p : Payload) : Decidable p.Proper := inferInstanceAs (Decidable (Dict.Ascending p.entries))

namespace Source

/-- What a source holds under a key; of a repeated key the last value counts. -/
def value? : Source → String → Option Value
  | .empty, _ => none
  | .payload p, key => p.get? key
  | .pairs entries, key => Dict.get? entries.reverse key
  | .single v, key => if key = Key.default then some v else none

/-- If the source is a payload, it is a proper one. -/
def Proper : Source → Prop
  | .payload p => p.Proper
  | .empty | .pairs _ | .single _ => True

theorem entries_payload (p : Payload) : (Source.payload p).entries = p.entries := by cases p; rfl

theorem ascending_entries {src : Source} (h : src.Proper) : Dict.Ascending src.entries := by
  cases src with
  | empty => exact List.Pairwise.nil
  | payload p =>
    rw [entries_payload]
    exact h
  | pairs entries =>
    have nothing : Dict.Ascending ([] : Dict String Value) := List.Pairwise.nil
    exact nothing.insertAll entries
  | single v => exact List.pairwise_singleton _ _

theorem get?_entries (src : Source) (key : String) :
    Dict.get? src.entries key = src.value? key := by
  cases src with
  | empty => rfl
  | payload p =>
    rw [entries_payload]
    rfl
  | pairs entries => exact (Dict.get?_insertAll [] entries key).trans (Option.or_none ..)
  | single v =>
    show (if Key.default = key then some v else none) = if key = Key.default then some v else none
    simp only [eq_comm]

/-- A source is empty if it has nothing under any key. -/
theorem isEmpty_entries_iff (src : Source) :
    src.entries.isEmpty = true ↔ ∀ key, src.value? key = none := by
  simp only [← get?_entries]
  cases src.entries with
  | nil => simp
  | cons q rest =>
    obtain ⟨key, v⟩ := q
    refine iff_of_false Bool.false_ne_true fun nothing => ?_
    have found := nothing key
    rw [Dict.get?, if_pos rfl] at found
    cases found

end Source

namespace Payload

theorem proper_new {src : Source} (h : src.Proper) (fresh : Nat) : (Payload.new src fresh).Proper := by
  rw [Proper, entries_new]
  exact Source.ascending_entries h

theorem get?_new (src : Source) (fresh : Nat) (key : String) :
    (Payload.new src fresh).get? key = src.value? key := by
  rw [get?, entries_new, Source.get?_entries]

theorem proper_apply {a : Payload} (h : a.Proper) (src : Source) (fresh : Nat) :
    (a.apply src fresh).Proper := by
  unfold apply
  split
  · exact h
  · exact Dict.Ascending.insertAll h src.entries

/-- The source wins wherever it has the key. -/
theorem get?_apply_eq (a : Payload) {src : Source} (h : src.Proper) (fresh : Nat) (key : String) :
    (a.apply src fresh).get? key = (src.value? key).or (a.get? key) := by
  rw [get?_apply, (Source.ascending_entries h).get?_reverse, Source.get?_entries]

/-- Proper payloads in which the same is found have the same entries. -/
theorem entries_eq_of_get? {p q : Payload} (hp : p.Proper) (hq : q.Proper)
    (h : ∀ key, p.get? key = q.get? key) : p.entries = q.entries :=
  hp.ext hq h

/-- Laying two sources over a payload is laying over it the second laid over the first. -/
theorem entries_apply_apply {a : Payload} {s t : Source} (ha : a.Proper) (hs : s.Proper)
    (ht : t.Proper) (i j k l m : Nat) : ((a.apply s i).apply t j).entries =
      (a.apply (.payload ((Payload.new s k).apply t l)) m).entries := by
  have both : (Source.payload ((Payload.new s k).apply t l)).Proper :=
    proper_apply (proper_new hs k) t l
  refine entries_eq_of_get? (proper_apply (proper_apply ha s i) t j) (proper_apply ha _ m) fun key => ?_
  calc ((a.apply s i).apply t j).get? key
      = (t.value? key).or ((s.value? key).or (a.get? key)) := by
        rw [get?_apply_eq _ ht, get?_apply_eq _ hs]
    _ = ((t.value? key).or (s.value? key)).or (a.get? key) := Option.or_assoc.symm
    _ = (((Payload.new s k).apply t l).get? key).or (a.get? key) := by
        rw [get?_apply_eq _ ht, get?_new]
    _ = (a.apply (.payload ((Payload.new s k).apply t l)) m).get? key :=
        (get?_apply_eq a both m key).symm

/-- Storage is shared just if nothing was laid over it. -/
theorem shares_apply_iff (a : Payload) (src : Source) {fresh : Nat} (h : fresh ≠ a.storage) :
    (a.apply src fresh).shares a = true ↔ ∀ key, src.value? key = none := by
  rw [← Source.isEmpty_entries_iff]
  unfold apply
  split
  · rename_i nothing
    simp [nothing, shares]
  · rename_i something
    refine iff_of_false (fun shared => h ?_) something
    exact beq_iff_eq.mp shared

/-- What it means to lay a source `s`, and then a source `t`, over a payload `a`. -/
structure Overlays (a : Payload) (s t : Source) : Prop where
  /-- Under each key there is the value of the source if it has the key, and that of `a` otherwise. -/
  value : ∀ fresh key, (a.apply s fresh).get? key = (s.value? key).or (a.get? key)
  /-- The keys are those of `a` and those of the source, each once. -/
  keys : ∀ fresh key, key ∈ Dict.keys (a.apply s fresh).entries ↔
    (s.value? key).isSome ∨ key ∈ Dict.keys a.entries
  once : ∀ fresh, (Dict.keys (a.apply s fresh).entries).Nodup
  /-- One source after the other is the second laid over the first. -/
  twice : ∀ i j k l m, ((a.apply s i).apply t j).entries =
    (a.apply (.payload ((Payload.new s k).apply t l)) m).entries
  /-- In any new storage, only the storage of `a` itself is shared, and only if the source is empty. -/
  shares : ∀ fresh, fresh ≠ a.storage →
    ((a.apply s fresh).shares a = true ↔ ∀ key, s.value? key = none)
  /-- In a memory in which `a`, the source and any others are held, the storage that comes out is new
  unless the source is empty, the payload in it is the same whoever holds the source, and `a` and the
  others, who may hold the source as well, read what they read before. -/
  inMemory : ∀ (m : Memory) (others : List Payload), m.Holds (a :: (s.held ++ others)) →
    (m.apply a.storage s).1 = (a.apply s m.next).storage ∧
      ((m.apply a.storage s).1 = a.storage ↔ ∀ key, s.value? key = none) ∧
      (m.apply a.storage s).2.Holds (a.apply s m.next :: a :: others)

/-- **Laying a source over a payload is a right-biased overlay.** -/
theorem overlays_apply {a : Payload} {s t : Source} (ha : a.Proper) (hs : s.Proper) (ht : t.Proper) :
    a.Overlays s t where
  value := get?_apply_eq a hs
  keys fresh key := by
    have found := get?_apply_eq a hs fresh key
    rw [← not_iff_not, ← Dict.get?_eq_none_iff, show Dict.get? (a.apply s fresh).entries key =
      (a.apply s fresh).get? key from rfl, found, Option.or_eq_none_iff, not_or, ← Dict.get?_eq_none_iff,
      Option.not_isSome_iff_eq_none]
    rfl
  once fresh := (proper_apply ha s fresh).nodup
  twice := entries_apply_apply ha hs ht
  shares _ new := shares_apply_iff a s new
  inMemory m others held := by
    have new : m.next ≠ a.storage := Nat.ne_of_gt (held.known a List.mem_cons_self)
    obtain ⟨storage, kept⟩ := held.apply
    refine ⟨storage, ?_, kept⟩
    rw [storage, ← shares_apply_iff a s new, shares, beq_iff_eq]

/-- A payload is laid over another while somebody else holds it, and then pairs that repeat a key. -/
theorem overlays_apply_held :
    let a : Payload := .mk 0 [("x", .int 1), ("y", .int 1)]
    let p : Payload := .mk 1 [("y", .int 2), ("z", .int 2)]
    let t : Source := .pairs [("z", .int 3), ("x", .int 4), ("z", .int 5)]
    let m : Memory := ⟨fun n => if n = 0 then a.entries else p.entries, [0, 1, 1], 2⟩
    a.Proper ∧ p.Proper ∧ m.Holds [a, p, p] ∧
      (a.apply (.payload p) 2).entries = [("x", .int 1), ("y", .int 2), ("z", .int 2)] ∧
      ((a.apply (.payload p) 2).apply t 3).get? "z" = some (.int 5) ∧
      (m.apply 0 (.payload p)).2.Holds [a.apply (.payload p) 2, a, p] := by
  intro a p t m
  have ha : a.Proper := by decide
  have hp : p.Proper := by decide
  have held : m.Holds [a, p, p] := ⟨.refl _, by simp [m, a, p, Payload.storage], by
    simp [m, a, p, Payload.storage]⟩
  have laid : a.Overlays (.payload p) t := overlays_apply ha hp trivial
  refine ⟨ha, hp, held, rfl, ?_, (laid.inMemory m [p] held).2.2⟩
  have after := laid.twice 2 3 4 5 6
  rw [get?, after]
  rfl

end Payload

end EventMesh
