import EventMesh.Event.Error

/-!
What a behavior may report: a failed emission, a payload it cannot use, a failed action or start, a
panic, or an error of a wait or scene passed on. Main statement: the JSON form of an error reads
back as the error (`ofJson?_toJson`).
-/

namespace EventMesh

/-- Errors of behaviors. -/
inductive BehaviorError where
  | emitFailed (reason : String)
  | invalidPayload (reason : String)
  | executionFailed (reason : String)
  | initFailed (reason : String)
  | panicked (message : String)
  | event (e : EventError)
  deriving DecidableEq

namespace BehaviorError

def code : BehaviorError → String
  | .emitFailed _ => "BEHAVIOR_EMIT_FAILED"
  | .invalidPayload _ => "BEHAVIOR_INVALID_PAYLOAD"
  | .executionFailed _ => "BEHAVIOR_EXECUTION_FAILED"
  | .initFailed _ => "BEHAVIOR_INIT_FAILED"
  | .panicked _ => "BEHAVIOR_PANICKED"
  | .event _ => "BEHAVIOR_EVENT"

def message : BehaviorError → String
  | .emitFailed reason => "emit failed: " ++ reason
  | .invalidPayload reason => "invalid payload: " ++ reason
  | .executionFailed reason => "execution failed: " ++ reason
  | .initFailed reason => "initialization failed: " ++ reason
  | .panicked text => "behavior panicked: " ++ text
  | .event e => e.message

/-- A failed emission or action may succeed when tried again; an error passed on keeps its own hint.
-/
def isRecoverable : BehaviorError → Bool
  | .emitFailed _ | .executionFailed _ => true
  | .invalidPayload _ | .initFailed _ | .panicked _ => false
  | .event e => e.isCancellation

instance : Coded BehaviorError where
  code := code
  message := message
  isRecoverable := isRecoverable

def inspect : BehaviorError → String
  | .emitFailed reason => "EmitFailed(" ++ Text.quoted reason ++ ")"
  | .invalidPayload reason => "InvalidPayload(" ++ Text.quoted reason ++ ")"
  | .executionFailed reason => "ExecutionFailed(" ++ Text.quoted reason ++ ")"
  | .initFailed reason => "InitFailed(" ++ Text.quoted reason ++ ")"
  | .panicked text => "Panicked(" ++ Text.quoted text ++ ")"
  | .event e => "Event(" ++ e.inspect ++ ")"

/-- An object from the name of the case to its content. -/
def toJson : BehaviorError → Json
  | .emitFailed reason => .obj [("EmitFailed", .str reason)]
  | .invalidPayload reason => .obj [("InvalidPayload", .str reason)]
  | .executionFailed reason => .obj [("ExecutionFailed", .str reason)]
  | .initFailed reason => .obj [("InitFailed", .str reason)]
  | .panicked text => .obj [("Panicked", .str text)]
  | .event e => .obj [("Event", e.toJson)]

/-- Reads the JSON form. -/
def ofJson? : Json → Option BehaviorError
  | .obj [("EmitFailed", .str reason)] => some (.emitFailed reason)
  | .obj [("InvalidPayload", .str reason)] => some (.invalidPayload reason)
  | .obj [("ExecutionFailed", .str reason)] => some (.executionFailed reason)
  | .obj [("InitFailed", .str reason)] => some (.initFailed reason)
  | .obj [("Panicked", .str text)] => some (.panicked text)
  | .obj [("Event", e)] => (EventError.ofJson? e).map .event
  | _ => none

theorem ofJson?_toJson (e : BehaviorError) : ofJson? e.toJson = some e := by
  cases e with
  | event e => simp [toJson, ofJson?, EventError.ofJson?_toJson]
  | _ => rfl

end BehaviorError

end EventMesh
