import EventMesh.Payload.Basic

/-!
Waiters: slots for one payload each. The first payload set stays; later ones are refused. Flags of
scenes have slots of their own kind, so that nobody but their scene fills them. Main statements: what
a look-up finds after a payload was set and after a slot was made (`reply?_set`, `reply?_add`).
-/

namespace EventMesh

/-- A slot for one payload. -/
structure Waiter where
  reply : Option Payload := none

abbrev Waiters := Table .waiter Waiter

/-- The slots behind the flags of scenes. -/
abbrev Flags := Table .flag Waiter

/-- A slot that someone may wait for. -/
inductive Slot where
  | waiter (w : WaiterId)
  | flag (f : FlagId)
  deriving DecidableEq

namespace Table

variable {k : Kind}

/-- The payload of a slot, once it is set. -/
def reply? (t : Table k Waiter) (w : Handle k) : Option Payload := (t.get? w).bind (·.reply)

def isSet (t : Table k Waiter) (w : Handle k) : Bool := (t.reply? w).isSome

/-- Fills the slot if it is empty. -/
def set (t : Table k Waiter) (w : Handle k) (p : Payload) : Table k Waiter :=
  t.modify w fun waiter => { waiter with reply := waiter.reply.or (some p) }

theorem reply?_set (t : Table k Waiter) (w v : Handle k) (p : Payload) :
    (t.set w p).reply? v =
      if w = v ∧ (t.get? v).isSome then (t.reply? v).or (some p) else t.reply? v := by
  unfold reply? set
  rw [get?_modify]
  cases h : t.get? v with
  | none => simp
  | some waiter => by_cases hw : w = v <;> simp [hw]

@[simp] theorem reply?_add (t : Table k Waiter) (v : Handle k) : (t.add {}).reply? v = t.reply? v := by
  unfold reply?
  rw [get?_add]
  split
  · rename_i hv
    rw [hv, get?_next]
    rfl
  · rfl

end Table

end EventMesh
