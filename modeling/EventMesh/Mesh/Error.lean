import EventMesh.Behavior.Error
import EventMesh.Identity

/-!
What an operation on a mesh may report: a missing or doubled cell, a mesh that is shutting down, a
request whose reply never came or had the wrong shape, or a behavior that refused to start.
-/

namespace EventMesh

/-- Errors of meshes. -/
inductive MeshError where
  | cellNotFound (id : CellId)
  | duplicateCell (id : CellId)
  | shuttingDown
  | request (e : EventError)
  | invalidResponse (reason : String)
  | behavior (e : BehaviorError)
  deriving DecidableEq

namespace MeshError

def code : MeshError → String
  | .cellNotFound _ => "RUNTIME_CELL_NOT_FOUND"
  | .duplicateCell _ => "RUNTIME_DUPLICATE_CELL"
  | .shuttingDown => "RUNTIME_SHUTTING_DOWN"
  | .request _ => "RUNTIME_REQUEST_FAILED"
  | .invalidResponse _ => "RUNTIME_INVALID_RESPONSE"
  | .behavior _ => "RUNTIME_BEHAVIOR"

def message : MeshError → String
  | .cellNotFound id => "cell not found: " ++ id.text
  | .duplicateCell id => "cell already running: " ++ id.text
  | .shuttingDown => "environment is shutting down"
  | .request e => "request failed: " ++ e.message
  | .invalidResponse reason => "invalid response: " ++ reason
  | .behavior e => "behavior error: " ++ e.message

/-- Only an error passed on may be worth another try. -/
def isRecoverable : MeshError → Bool
  | .request e => e.isCancellation
  | .behavior e => e.isRecoverable
  | .cellNotFound _ | .duplicateCell _ | .shuttingDown | .invalidResponse _ => false

instance : Coded MeshError where
  code := code
  message := message
  isRecoverable := isRecoverable

def inspect : MeshError → String
  | .cellNotFound id => "CellNotFound(" ++ id.inspect ++ ")"
  | .duplicateCell id => "DuplicateCell(" ++ id.inspect ++ ")"
  | .shuttingDown => "ShuttingDown"
  | .request e => "Request(" ++ e.inspect ++ ")"
  | .invalidResponse reason => "InvalidResponse(" ++ Text.quoted reason ++ ")"
  | .behavior e => "Behavior(" ++ e.inspect ++ ")"

/-- The texts of the chain of causes below an error. -/
def causes : MeshError → List String
  | .request e => [e.message]
  | .behavior e => [e.message]
  | .cellNotFound _ | .duplicateCell _ | .shuttingDown | .invalidResponse _ => []

end MeshError

end EventMesh
