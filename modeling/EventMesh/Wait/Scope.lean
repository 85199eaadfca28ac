import EventMesh.Table

/-!
Cancel scopes. A scope is derived from at most one other; cancelling it cancels, at once, every
scope derived from it, and a scope derived from a cancelled one is born cancelled. A scope that
nobody holds any more is passed over, and forgotten by the scope it was derived from. Main statement:
the work list of a cancellation gets done because each scope on it is either cancelled already or
becomes so (`live_cancelled_lt`).
-/

namespace EventMesh

/-- A cancel scope. -/
structure Scope where
  cancelled : Bool := false
  /-- The scopes derived from this one that a cancellation has to reach. -/
  children : List ScopeId := []
  /-- Whether nobody holds the scope any more. -/
  dropped : Bool := false

abbrev Scopes := Table .scope Scope

namespace Scopes

/-- Whether a scope is cancelled; nobody waits within one that does not exist. -/
def isCancelled (t : Scopes) (s : ScopeId) : Bool := (t.get? s).all (·.cancelled)

/-- Whether somebody still holds a scope. -/
def isHeld (t : Scopes) (s : ScopeId) : Bool := (t.get? s).any (!·.dropped)

/-- How many scopes are not cancelled. -/
def live (t : Scopes) : Nat := t.rows.toList.countP (!·.cancelled)

/-- The table with one scope cancelled and its children forgotten. -/
def cancelOne (t : Scopes) (s : ScopeId) : Scopes :=
  t.modify s fun scope => { scope with cancelled := true, children := [] }

theorem live_cancelled_lt (t : Scopes) (s : ScopeId) (scope : Scope) (h : t.get? s = some scope)
    (hc : scope.cancelled = false) : live (t.cancelOne s) < live t := by
  have counted := Table.countWhere_modify h (!·.cancelled) fun scope =>
    { scope with cancelled := true, children := [] }
  simp only [hc, Bool.not_false, Bool.not_true, Bool.toNat_true, Bool.toNat_false] at counted
  exact Nat.lt_of_succ_le (Nat.le_of_eq counted)

/-- Cancels the scopes of a work list and, through them, those derived from them. What is cancelled
already, or not held by anybody, stays as it is. -/
def cancelAll (t : Scopes) : List ScopeId → Scopes
  | [] => t
  | s :: rest =>
    match _h : t.get? s with
    | none => cancelAll t rest
    | some scope =>
      if _hc : scope.cancelled ∨ scope.dropped then cancelAll t rest
      else cancelAll (t.cancelOne s) (scope.children ++ rest)
termination_by work => (live t, work.length)
decreasing_by
  · exact Prod.Lex.right _ (by simp)
  · exact Prod.Lex.right _ (by simp)
  · exact Prod.Lex.left _ _ (live_cancelled_lt t s scope _h (by simpa using fun h => _hc (.inl h)))

/-- Cancels a scope and those derived from it. -/
def cancel (t : Scopes) (s : ScopeId) : Scopes := cancelAll t [s]

/-- Lets go of a scope for good. -/
def drop (t : Scopes) (s : ScopeId) : Scopes :=
  t.modify s fun scope => { scope with dropped := true }

/-- Enters a scope among the children of another and strikes off those that nobody holds. A
cancelled parent cancels it at once. -/
def adopt (t : Scopes) (parent child : ScopeId) : Scopes :=
  let adopted := t.modify parent fun scope =>
    { scope with children := scope.children.filter t.isHeld ++ [child] }
  if t.isCancelled parent then cancel adopted child else adopted

/-- The table with one more scope, derived from the given one if there is one. -/
def derive (t : Scopes) (parent : Option ScopeId) : Scopes × ScopeId :=
  let child := t.next
  let grown := t.add {}
  match parent with
  | some parent => (adopt grown parent child, child)
  | none => (grown, child)

@[simp] theorem derive_snd (t : Scopes) (parent : Option ScopeId) : (t.derive parent).2 = t.next := by
  unfold derive
  cases parent <;> rfl

end Scopes

end EventMesh
