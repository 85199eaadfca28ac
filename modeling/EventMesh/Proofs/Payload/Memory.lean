import EventMesh.Payload.Basic
import Mathlib.Data.List.Perm.Basic
import Mathlib.Logic.Function.Basic

/-!
# Storages and their holders

Payloads that share a storage hold it together. Only a storage with a single holder may be taken apart;
anybody else has to copy what is in it. A `Memory` knows what each storage contains and who holds it, and
`Memory.apply` lays a source over a payload there. Main statement: whatever is held reads the same
afterwards, and what comes out is the payload with the source laid over it, whoever else holds the
storage of the source (`Holds.apply`).
-/

namespace EventMesh

open Function

/-- The payload that a source gives away when it is used. -/
def Source.held : Source → List Payload
  | .payload p => [p]
  | .empty | .pairs _ | .single _ => []

/-- Storages, by their numbers. -/
structure Memory where
  contents : Nat → Dict String Value
  /-- The storage of each holder, in any order. -/
  holders : List Nat
  /-- The storage that is made next. -/
  next : Nat

namespace Memory

/-- A storage gets one more holder. -/
def share (m : Memory) (storage : Nat) : Memory := { m with holders := storage :: m.holders }

/-- A holder lets go of a storage. -/
def drop (m : Memory) (storage : Nat) : Memory := { m with holders := m.holders.erase storage }

/-- A holder lets go of a storage for its entries. The only holder takes them out, any other one copies
them. -/
def takeOver (m : Memory) (storage : Nat) : Dict String Value × Memory :=
  if m.holders.count storage = 1 then
    (m.contents storage, { m.drop storage with contents := update m.contents storage [] })
  else (m.contents storage, m.drop storage)

/-- A new storage with one holder. -/
def allot (m : Memory) (entries : Dict String Value) : Nat × Memory :=
  (m.next, {
    contents := update m.contents m.next entries
    holders := m.next :: m.holders
    next := m.next + 1 })

/-- Lays entries over those of a storage, in a new one, unless there are none. -/
def merge (m : Memory) (storage : Nat) (laid : Dict String Value) : Nat × Memory :=
  if laid.isEmpty then (storage, m.share storage)
  else m.allot (Dict.insertAll (m.contents storage) laid)

/-- Lays a source over the payload in a storage. A payload used as the source is given away. -/
def apply (m : Memory) (storage : Nat) : Source → Nat × Memory
  | .empty => (storage, m.share storage)
  | .payload p =>
    if (m.contents p.storage).isEmpty then (storage, (m.share storage).drop p.storage)
    else
      let (laid, m) := m.takeOver p.storage
      m.merge storage laid
  | .pairs entries => m.merge storage (Dict.insertAll [] entries)
  | .single v => m.merge storage [(Key.default, v)]

/-- The payloads, and no others, hold the storages of the memory, and each reads its entries there. -/
structure Holds (m : Memory) (ps : List Payload) : Prop where
  holders : m.holders.Perm (ps.map (·.storage))
  reads : ∀ p ∈ ps, m.contents p.storage = p.entries
  known : ∀ p ∈ ps, p.storage < m.next

namespace Holds

variable {m : Memory} {a p : Payload} {ps others : List Payload}

theorem perm {qs : List Payload} (h : m.Holds ps) (same : ps.Perm qs) : m.Holds qs :=
  ⟨h.holders.trans (same.map _), fun q hq => h.reads q (same.mem_iff.mpr hq),
    fun q hq => h.known q (same.mem_iff.mpr hq)⟩

theorem share (h : m.Holds (a :: ps)) : (m.share a.storage).Holds (a :: a :: ps) where
  holders := h.holders.cons a.storage
  reads q hq := h.reads q (by simpa using hq)
  known q hq := h.known q (by simpa using hq)

theorem drop (h : m.Holds (p :: ps)) : (m.drop p.storage).Holds ps where
  holders := by
    have left := h.holders.erase p.storage
    rwa [List.map_cons, List.erase_cons_head] at left
  reads q hq := h.reads q (List.mem_cons_of_mem _ hq)
  known q hq := h.known q (List.mem_cons_of_mem _ hq)

/-- Taking entries over disturbs nobody: the storage is emptied only if nobody else holds it. -/
theorem takeOver (h : m.Holds (p :: ps)) :
    (m.takeOver p.storage).1 = p.entries ∧ (m.takeOver p.storage).2.next = m.next ∧
      (m.takeOver p.storage).2.Holds ps := by
  have entries := h.reads p List.mem_cons_self
  unfold Memory.takeOver
  split
  · rename_i single
    refine ⟨entries, rfl, h.drop.holders, fun q hq => ?_, h.drop.known⟩
    have nobody : p.storage ∉ ps.map (·.storage) := by
      rw [h.holders.count_eq, List.map_cons, List.count_cons_self] at single
      exact List.count_eq_zero.mp (Nat.succ.inj single)
    have other : q.storage ≠ p.storage := fun same => nobody (same ▸ List.mem_map_of_mem hq)
    show update m.contents p.storage [] q.storage = q.entries
    rw [update_of_ne other]
    exact h.reads q (List.mem_cons_of_mem _ hq)
  · exact ⟨entries, rfl, h.drop⟩

theorem allot (h : m.Holds ps) (entries : Dict String Value) :
    (m.allot entries).2.Holds (.mk m.next entries :: ps) := by
  refine ⟨h.holders.cons m.next, fun q hq => ?_, fun q hq => ?_⟩
  · rcases List.mem_cons.mp hq with rfl | hq
    · exact update_self ..
    · have older : q.storage ≠ m.next := Nat.ne_of_lt (h.known q hq)
      show update m.contents m.next entries q.storage = q.entries
      rw [update_of_ne older]
      exact h.reads q hq
  · rcases List.mem_cons.mp hq with rfl | hq
    · exact Nat.lt_succ_self _
    · exact Nat.lt_succ_of_lt (h.known q hq)

/-- The payload that comes of laying entries over another, in the storage given. -/
theorem merge (h : m.Holds (a :: ps)) (laid : Dict String Value) :
    ∃ q, (m.merge a.storage laid).1 = q.storage ∧ (m.merge a.storage laid).2.Holds (q :: a :: ps) ∧
      q = if laid.isEmpty then a else .mk m.next (Dict.insertAll a.entries laid) := by
  unfold Memory.merge
  split
  · exact ⟨a, rfl, h.share, rfl⟩
  · refine ⟨_, rfl, h.allot _, ?_⟩
    rw [h.reads a List.mem_cons_self]

/-- **Laying a source over a payload disturbs no holder of anything**, and the new holder reads the
payload with the source laid over it. -/
theorem apply {src : Source} (h : m.Holds (a :: (src.held ++ others))) :
    (m.apply a.storage src).1 = (a.apply src m.next).storage ∧
      (m.apply a.storage src).2.Holds (a.apply src m.next :: a :: others) := by
  -- Whatever the shape of the source, its entries are merged into a memory that holds the rest.
  have merged {m' : Memory} (next : m'.next = m.next) (rest : m'.Holds (a :: others)) :
      (m'.merge a.storage src.entries).1 = (a.apply src m.next).storage ∧
        (m'.merge a.storage src.entries).2.Holds (a.apply src m.next :: a :: others) := by
    obtain ⟨q, same, held, rfl⟩ := rest.merge src.entries
    rw [next] at same held
    exact ⟨same, held⟩
  cases src with
  | empty => exact merged rfl h
  | pairs entries => exact merged rfl h
  | single v => exact merged rfl h
  | payload p =>
    have own : (Source.payload p).entries = p.entries := by cases p; rfl
    have front : m.Holds (p :: a :: others) := h.perm (.swap p a others)
    have read : m.contents p.storage = p.entries := front.reads p List.mem_cons_self
    simp only [Memory.apply, read]
    split
    · rename_i nothing
      have unchanged : a.apply (.payload p) m.next = a := if_pos (by rwa [own])
      have shared : (m.share a.storage).Holds (p :: a :: a :: others) :=
        h.share.perm (((List.Perm.swap p a others).cons a).trans (.swap p a (a :: others)))
      rw [unchanged]
      exact ⟨rfl, shared.drop⟩
    · obtain ⟨taken, next, rest⟩ := front.takeOver
      rw [taken, ← own]
      exact merged next rest

end Holds

end Memory

end EventMesh
