import EventMesh.Event.Error
import EventMesh.Time.Clock
import EventMesh.Wait.Scope

/-!
Contexts bound how long someone is willing to wait: by a cancel scope, by a deadline, by both or by
neither. A deadline that is added to a context never moves the one it has back.
-/

namespace EventMesh

open Time

/-- The bounds of a wait. -/
structure Context where
  scope : Option ScopeId := none
  deadline : Option Instant := none
  deriving DecidableEq

namespace Context

/-- The context that never ends. -/
def background : Context := {}

/-- The context that ends at the deadline too. -/
def withDeadline (c : Context) (at_ : Instant) : Context :=
  { c with deadline := some (c.deadline.elim at_ (·.earlier at_)) }

/-- The context that ends a span from now too; a span that reaches past all representable instants
adds nothing. -/
def withTimeout (c : Context) (now : Instant) (timeout : Duration) : Context :=
  match now.add? timeout with
  | some deadline => c.withDeadline deadline
  | none => c

/-- Why the context has ended, if it has. Cancellation is reported ahead of a deadline. -/
def err? (c : Context) (scopes : Scopes) (now : Instant) : Option EventError :=
  if c.scope.any scopes.isCancelled then some .cancelled
  else if c.deadline.any (· ≤ now) then some .deadlineExceeded
  else none

/-- The inspection text of a context without a deadline that ended as told. -/
def inspect (c : Context) (err : Option EventError) : String :=
  "CancelContext \x7b cancellable: " ++ toString c.scope.isSome ++ ", deadline: None, err: " ++
    (err.elim "None" fun e => "Some(" ++ e.inspect ++ ")") ++ " \x7d"

/-- The inspection text of the handle that cancels a scope. -/
def inspectHandle (cancelled : Bool) : String :=
  "CancelHandle \x7b cancelled: " ++ toString cancelled ++ " \x7d"

end Context

end EventMesh
